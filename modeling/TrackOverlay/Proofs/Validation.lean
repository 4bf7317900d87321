import TrackOverlay.Proofs.Settings

/-!
# Validation — what accepted parameters are known to satisfy

A lower bound refuses the values below it, which is not the same as keeping the values above it: what is
not a number lies neither below nor above.  This file defines

* `Parameters.InBounds` — every bound holds as a comparison;
* `Parameters.Bound.Holds` and `Parameters.Bound.Unordered` — a single bound holds, or has nothing to
  compare;

and shows that validation keeps exactly the parameters each bound of which is one or the other
(`Parameters.check_eq_ok_iff`).  So an accepted parameter is in its bounds unless it is not a number, and
only a setting can make it so (`Parameters.accepted_inBounds_iff`).
-/

namespace TrackOverlay
namespace Parameters

open Float.Model (UnpackedFloat)

variable {q r : Parameters} {x y : Float}

/-! ## Comparisons of doubles -/

theorem swap_then_compare (e f : Int) (m n : Nat) :
    ((compare e f).then (compare m n)).swap = (compare f e).then (compare n m) := by
  rw [Ordering.swap_then, Int.compare_swap, Nat.compare_swap]

theorem compare_swap (u v : UnpackedFloat) : (u.compare v).map Ordering.swap = v.compare u := by
  cases u with
  | notANumber => cases v <;> rfl
  | infinity s =>
      cases s <;> cases v with
      | infinity t => cases t <;> rfl
      | _ => rfl
  | zero s =>
      cases v with
      | infinity t => cases t <;> rfl
      | finite t => cases t <;> rfl
      | _ => rfl
  | finite s m e =>
      cases v with
      | notANumber => cases s <;> rfl
      | infinity t => cases s <;> cases t <;> rfl
      | zero t => cases s <;> rfl
      | finite t n f =>
          -- only values of one sign are compared by size
          cases s <;> cases t
          · exact congrArg (fun order => some order.swap) (swap_then_compare e f m n)
          · rfl
          · rfl
          · exact congrArg some (swap_then_compare e f m n)

theorem isNone_compare (u v : UnpackedFloat) : (u.compare v).isNone = (u.isNaN || v.isNaN) := by
  cases u with
  | notANumber => cases v <;> rfl
  | infinity s => cases s <;> cases v <;> rfl
  | zero s =>
      cases v with
      | infinity t => cases t <;> rfl
      | finite t => cases t <;> rfl
      | _ => rfl
  | finite s m e =>
      cases v with
      | notANumber => cases s <;> rfl
      | infinity t => cases s <;> cases t <;> rfl
      | zero t => cases s <;> rfl
      | finite t n f => cases s <;> cases t <;> rfl

theorem lt_iff_compare : x < y ↔ x.toModel.unpack.compare y.toModel.unpack = some .lt := by
  have hmodel : x < y ↔ x.toModel < y.toModel := decide_eq_true_iff
  rw [hmodel]
  exact beq_iff_eq

theorem le_iff_compare :
    x ≤ y ↔ (x.toModel.unpack.compare y.toModel.unpack).any Ordering.isLE = true :=
  decide_eq_true_iff

/-- Two doubles have no order exactly if one of them is not a number. -/
theorem isNaN_iff_compare :
    x.isNaN = true ∨ y.isNaN = true ↔ x.toModel.unpack.compare y.toModel.unpack = none := by
  rw [← Option.isNone_iff_eq_none, isNone_compare]
  exact Bool.or_eq_true_iff.symm

/-- What is not below is at least as large, or there is nothing to compare. -/
theorem not_lt_iff : ¬ x < y ↔ y ≤ x ∨ x.isNaN = true ∨ y.isNaN = true := by
  rw [isNaN_iff_compare, lt_iff_compare, le_iff_compare, ← compare_swap x.toModel.unpack]
  cases x.toModel.unpack.compare y.toModel.unpack with
  | none => simp
  | some order => cases order <;> simp

/-- What is not at most as large is above, or there is nothing to compare. -/
theorem not_le_iff : ¬ x ≤ y ↔ y < x ∨ x.isNaN = true ∨ y.isNaN = true := by
  rw [isNaN_iff_compare, lt_iff_compare, le_iff_compare, ← compare_swap x.toModel.unpack]
  cases x.toModel.unpack.compare y.toModel.unpack with
  | none => simp
  | some order => cases order <;> simp

theorem not_le_of_isNaN (h : y.isNaN = true) : ¬ x ≤ y := not_le_iff.2 (.inr (.inr h))

theorem not_lt_of_isNaN (h : y.isNaN = true) : ¬ x < y := not_lt_iff.2 (.inr (.inr h))

/-! ## Bounds -/

/-- A bound holds, as a comparison. -/
def Bound.Holds (q : Parameters) : Bound → Prop
  | .nonNegative p => 0.0 ≤ q.get p
  | .positive p => 0.0 < q.get p
  | .unit p => 0.0 ≤ q.get p ∧ q.get p ≤ 1.0
  | .prefixPositive => 0 < q.prefixLength

/-- The value behind a lower bound is not a number. -/
def Bound.Unordered (q : Parameters) : Bound → Prop
  | .nonNegative p => (q.get p).isNaN = true
  | .positive p => (q.get p).isNaN = true
  | .unit _ => False
  | .prefixPositive => False

theorem Bound.not_broken_iff {bound : Bound} :
    ¬ bound.Broken q ↔ bound.Holds q ∨ bound.Unordered q := by
  have hzero : (0.0 : Float).isNaN = false := by decide
  cases bound with
  | nonNegative p =>
      simp only [Broken, Holds, Unordered, not_lt_iff, hzero, Bool.false_eq_true, or_false]
  | positive p =>
      simp only [Broken, Holds, Unordered, not_le_iff, hzero, Bool.false_eq_true, or_false]
  | unit p => simp [Broken, Holds, Unordered]
  | prefixPositive => simp [Broken, Holds, Unordered]

theorem Bound.Unordered.not_holds {bound : Bound} (h : bound.Unordered q) : ¬ bound.Holds q := by
  cases bound with
  | nonNegative p => exact not_le_of_isNaN h
  | positive p => exact not_lt_of_isNaN h
  | unit p => exact h.elim
  | prefixPositive => exact h.elim

theorem Bound.holds_iff_not_unordered {bound : Bound} (h : bound.Holds q ∨ bound.Unordered q) :
    bound.Holds q ↔ ¬ bound.Unordered q := by
  constructor
  · intro hholds hunordered
    exact hunordered.not_holds hholds
  · exact h.resolve_right

/-- Validation keeps the parameters each bound of which holds or has nothing to compare. -/
theorem check_eq_ok_iff :
    q.check = .ok r ↔ q = r ∧ ∀ bound ∈ bounds, bound.Holds q ∨ bound.Unordered q := by
  simp only [check_eq_ok_iff_kept, Bound.not_broken_iff]

/-! ## Parameters in their bounds -/

structure InBounds (q : Parameters) : Prop where
  markerLifetime : 0.0 ≤ q.markerLifetime
  textScale : 0.0 < q.textScale
  trackBoxScale : 0.0 < q.trackBoxScale
  detectBoxScale : 0.0 < q.detectBoxScale
  lineWidth : 0.0 < q.lineWidth
  threshold : 0.0 ≤ q.probabilityThreshold ∧ q.probabilityThreshold ≤ 1.0
  prefixLength : 0 < q.prefixLength

/-- The parameters with a lower bound only. -/
def lowerBounded : List RealParameter :=
  [.markerLifetime, .textScale, .trackBoxScale, .detectBoxScale, .lineWidth]

theorem inBounds_iff : q.InBounds ↔ ∀ bound ∈ bounds, bound.Holds q := by
  simp only [bounds, List.forall_mem_cons, List.not_mem_nil, false_imp_iff, implies_true, and_true]
  exact ⟨fun ⟨h1, h2, h3, h4, h5, h6, h7⟩ => ⟨h1, h2, h3, h4, h5, h6, h7⟩,
    fun ⟨h1, h2, h3, h4, h5, h6, h7⟩ => ⟨h1, h2, h3, h4, h5, h6, h7⟩⟩

theorem forall_ordered_iff :
    (∀ bound ∈ bounds, ¬ bound.Unordered q) ↔ ∀ p ∈ lowerBounded, (q.get p).isNaN = false := by
  simp only [bounds, lowerBounded, List.forall_mem_cons, List.not_mem_nil, false_imp_iff,
    implies_true, and_true, Bound.Unordered, Bool.not_eq_true, not_false_eq_true]

/-! ## Settings -/

theorem isNaN_get_default (p : RealParameter) : (({} : Parameters).get p).isNaN = false := by
  cases p <;> decide

theorem isNaN_get_of_settings {settings : List Setting}
    (hsettings : ∀ p x, Setting.real p x ∈ settings → x.isNaN = false) (p : RealParameter) :
    ((settings.foldl apply {}).get p).isNaN = false := by
  rw [get_foldl_apply, List.getLastD_eq_getLast?]
  cases hlast : (settings.filterMap (Setting.valueFor? p)).getLast? with
  | none => exact isNaN_get_default p
  | some x =>
      rcases List.mem_filterMap.1 (List.mem_of_getLast? hlast) with ⟨s, hs, hx⟩
      rw [Setting.eq_of_valueFor? hx] at hs
      exact hsettings p x hs

/-! ## Accepted parameters -/

/-- Accepted parameters are in their bounds exactly if none of the values with a lower bound only fails to
be a number, as is the case when every setting is one.  The interval of the threshold and the bound of
the prefix hold in any case, and each of the other bounds unless its own value is not a number. -/
theorem accepted_inBounds_iff {settings : List Setting} (haccepted : ofSettings settings = .ok q) :
    (q.InBounds ↔ ∀ p ∈ lowerBounded, (q.get p).isNaN = false) ∧
      ((∀ p x, Setting.real p x ∈ settings → x.isNaN = false) → q.InBounds) ∧
      ((0.0 ≤ q.probabilityThreshold ∧ q.probabilityThreshold ≤ 1.0) ∧ 0 < q.prefixLength) ∧
      ∀ bound ∈ bounds, bound.Holds q ∨ bound.Unordered q := by
  rcases check_eq_ok_iff.1 haccepted with ⟨hq, hkept⟩
  rw [hq] at hkept
  have hiff : q.InBounds ↔ ∀ p ∈ lowerBounded, (q.get p).isNaN = false := by
    calc q.InBounds
        ↔ ∀ bound ∈ bounds, bound.Holds q := inBounds_iff
      _ ↔ ∀ bound ∈ bounds, ¬ bound.Unordered q :=
        forall₂_congr fun bound hbound => Bound.holds_iff_not_unordered (hkept bound hbound)
      _ ↔ ∀ p ∈ lowerBounded, (q.get p).isNaN = false := forall_ordered_iff
  have hthreshold : Bound.Holds q (.unit .probabilityThreshold) :=
    (hkept _ (by decide)).resolve_right id
  have hprefix : Bound.Holds q .prefixPositive := (hkept _ (by decide)).resolve_right id
  refine ⟨hiff, ?_, ⟨hthreshold, hprefix⟩, hkept⟩
  intro hsettings
  refine hiff.2 ?_
  intro p _
  exact hq ▸ isNaN_get_of_settings hsettings p

/-- An infinite scale is in its bounds, and a setting of something unknown changes nothing. -/
theorem accepted_inBounds_iff_infinite :
    let q : Parameters := { textScale := 1.0 / 0.0, prefixLength := 8 }
    ofSettings [.real .textScale (1.0 / 0.0), .unknown "text_color", .prefixLength 8] = .ok q ∧
      q.InBounds := by
  intro q
  have haccepted :
      ofSettings [.real .textScale (1.0 / 0.0), .unknown "text_color", .prefixLength 8] = .ok q := rfl
  exact ⟨haccepted, (accepted_inBounds_iff haccepted).1.2 (by decide)⟩

/-- A scale that is not a number is accepted, and is not positive. -/
theorem notANumber_accepted :
    let q : Parameters := { textScale := 0.0 / 0.0 }
    ofSettings [.real .textScale (0.0 / 0.0)] = .ok q ∧ ¬ q.InBounds := by
  intro q
  have haccepted : ofSettings [.real .textScale (0.0 / 0.0)] = .ok q := rfl
  exact ⟨haccepted, fun hbounds => absurd hbounds.textScale (by decide)⟩

end Parameters
end TrackOverlay
