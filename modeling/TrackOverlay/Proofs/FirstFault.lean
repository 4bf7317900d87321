import Mathlib.Data.List.Forall2
import TrackOverlay.Fault

/-!
# FirstFault — the fault that a composed operation ends with

Operations that can fail are composed one after the other, and the first fault ends the whole.  This
file defines

* `Outcome.fault?` — the fault that an outcome ended with, if any,

and computes it for the compositions that occur: a continuation (`fault?_bind`) and a traversal of a
list (`fault?_mapM`).  The laws say which fault is reported, not only that there is one.

Where there is none, `bind_eq_ok_iff`, `map_eq_ok_iff` and `mapM_eq_ok_iff` say what the parts gave.
Where there is one, `mapM_eq_error_iff` says at which item a traversal stopped.
-/

namespace TrackOverlay
namespace Outcome

variable {ε δ α β : Type}

/-- The fault that an outcome ended with. -/
def fault? : Except ε α → Option ε
  | .error fault => some fault
  | .ok _ => none

@[simp] theorem fault?_ok (a : α) : fault? (.ok a : Except ε α) = none := rfl

@[simp] theorem fault?_pure (a : α) : fault? (pure a : Except ε α) = none := rfl

@[simp] theorem fault?_error (fault : ε) : fault? (.error fault : Except ε α) = some fault := rfl

theorem fault?_eq_some_iff {x : Except ε α} {fault : ε} :
    fault? x = some fault ↔ x = .error fault := by
  cases x with
  | error other => simp
  | ok a => simp

theorem fault?_eq_none_iff {x : Except ε α} : fault? x = none ↔ ∃ a, x = .ok a := by
  cases x with
  | error fault => simp
  | ok a => simp

@[simp] theorem fault?_map (f : α → β) (x : Except ε α) : fault? (x.map f) = fault? x := by
  cases x with
  | error fault => rfl
  | ok a => rfl

@[simp] theorem fault?_mapError (f : ε → δ) (x : Except ε α) :
    fault? (x.mapError f) = (fault? x).map f := by
  cases x with
  | error fault => rfl
  | ok a => rfl

/-- A continuation is reached only with a result, so its fault comes second. -/
theorem fault?_bind {x : Except ε α} {f : α → Except ε β} {rest : Option ε}
    (hrest : ∀ a, x = .ok a → fault? (f a) = rest) :
    fault? (x >>= f) = (fault? x).or rest := by
  cases x with
  | error fault => rfl
  | ok a => exact hrest a rfl

theorem fault?_bind_pure (x : Except ε α) (g : α → β) :
    fault? (x >>= fun a => pure (g a)) = fault? x := by
  cases x with
  | error fault => rfl
  | ok a => rfl

/-- A traversal ends with the fault of the first item that has one. -/
theorem fault?_mapM (f : α → Except ε β) (items : List α) :
    fault? (items.mapM f) = items.findSome? fun a => fault? (f a) := by
  induction items with
  | nil => rfl
  | cons a items ih =>
      have htail : ∀ b, f a = .ok b →
          fault? (items.mapM f >>= fun bs => pure (b :: bs)) =
            items.findSome? fun a => fault? (f a) := by
        intro b _
        rw [fault?_bind_pure, ih]
      rw [List.mapM_cons, fault?_bind htail, List.findSome?_cons]
      cases fault? (f a) with
      | none => rfl
      | some fault => rfl

/-- A traversal fails at the first item that does; those before it succeed. -/
theorem mapM_eq_error_iff {f : α → Except ε β} {items : List α} {fault : ε} :
    items.mapM f = .error fault ↔
      ∃ (i : Nat) (a : α), items[i]? = some a ∧ f a = .error fault ∧
        ∀ j < i, ∀ b, items[j]? = some b → ∃ result, f b = .ok result := by
  rw [← fault?_eq_some_iff, fault?_mapM]
  simp only [← fault?_eq_some_iff, ← fault?_eq_none_iff]
  induction items with
  | nil => simp
  | cons a items ih =>
      rw [List.findSome?_cons]
      cases ha : fault? (f a) with
      | some other =>
          constructor
          · rintro ⟨⟩
            exact ⟨0, a, rfl, ha, fun j hj => absurd hj (Nat.not_lt_zero j)⟩
          · rintro ⟨i, b, hb, hfault, hbefore⟩
            cases i with
            | zero =>
                cases hb
                exact ha.symm.trans hfault
            | succ i =>
                -- nothing behind the first item is reached
                have hnone := hbefore 0 (Nat.succ_pos i) a rfl
                simp [ha] at hnone
      | none =>
          rw [ih]
          constructor
          · rintro ⟨i, b, hb, hfault, hbefore⟩
            refine ⟨i + 1, b, hb, hfault, ?_⟩
            intro j hj
            cases j with
            | zero =>
                rintro _ ⟨⟩
                exact ha
            | succ j => exact hbefore j (Nat.lt_of_succ_lt_succ hj)
          · rintro ⟨i, b, hb, hfault, hbefore⟩
            cases i with
            | zero =>
                cases hb
                simp [ha] at hfault
            | succ i => exact ⟨i, b, hb, hfault, fun j hj => hbefore (j + 1) (Nat.succ_lt_succ hj)⟩

/-! ## Results -/

theorem bind_eq_ok_iff {x : Except ε α} {f : α → Except ε β} {b : β} :
    x >>= f = .ok b ↔ ∃ a, x = .ok a ∧ f a = .ok b := by
  cases x with
  | error fault => simp [bind, Except.bind]
  | ok a => simp [bind, Except.bind]

theorem map_eq_ok_iff {f : α → β} {x : Except ε α} {b : β} :
    x.map f = .ok b ↔ ∃ a, x = .ok a ∧ f a = b := by
  cases x with
  | error fault => simp [Except.map]
  | ok a => simp [Except.map]

/-- A traversal succeeds item by item. -/
theorem mapM_eq_ok_iff {f : α → Except ε β} {items : List α} {results : List β} :
    items.mapM f = .ok results ↔ List.Forall₂ (fun a b => f a = .ok b) items results := by
  induction items generalizing results with
  | nil =>
      rw [List.mapM_nil, List.forall₂_nil_left_iff]
      constructor
      · intro hresults
        exact (Except.ok.inj hresults).symm
      · rintro rfl
        rfl
  | cons a items ih =>
      simp only [List.mapM_cons, bind_eq_ok_iff, ih, List.forall₂_cons_left_iff]
      constructor
      · rintro ⟨b, hb, bs, hbs, hresults⟩
        exact ⟨b, bs, hb, hbs, (Except.ok.inj hresults).symm⟩
      · rintro ⟨b, bs, hb, hbs, rfl⟩
        exact ⟨b, hb, bs, hbs, rfl⟩

/-! ## Traversals that count along -/

theorem getElem?_zipIdx_iff {items : List α} {i position : Nat} {a : α} :
    items.zipIdx[i]? = some (a, position) ↔ items[i]? = some a ∧ i = position := by
  rw [List.getElem?_zipIdx, Nat.zero_add]
  cases items[i]? with
  | none => simp
  | some b => simp

theorem mapM_zipIdx_eq_ok_iff {f : α × Nat → Except ε β} {items : List α} {results : List β} :
    items.zipIdx.mapM f = .ok results ↔
      results.length = items.length ∧
        ∀ (i : Nat) (a : α) (b : β), items[i]? = some a → results[i]? = some b →
          f (a, i) = .ok b := by
  rw [mapM_eq_ok_iff, List.forall₂_iff_get]
  constructor
  · rintro ⟨hlength, hresults⟩
    refine ⟨by simpa using hlength.symm, ?_⟩
    intro i a b ha hb
    rcases List.getElem?_eq_some_iff.1 ha with ⟨hi, rfl⟩
    rcases List.getElem?_eq_some_iff.1 hb with ⟨hi', rfl⟩
    simpa using hresults i (by simpa using hi) hi'
  · rintro ⟨hlength, hresults⟩
    refine ⟨by simpa using hlength.symm, ?_⟩
    intro i hi hi'
    have hitem : i < items.length := by simpa using hi
    simpa using hresults i _ _ (List.getElem?_eq_getElem hitem) (List.getElem?_eq_getElem hi')

theorem mapM_zipIdx_eq_error_iff {f : α × Nat → Except ε β} {items : List α} {fault : ε} :
    items.zipIdx.mapM f = .error fault ↔
      ∃ (i : Nat) (a : α), items[i]? = some a ∧ f (a, i) = .error fault ∧
        ∀ j < i, ∀ b, items[j]? = some b → ∃ result, f (b, j) = .ok result := by
  simp only [mapM_eq_error_iff, Prod.exists, Prod.forall, getElem?_zipIdx_iff]
  constructor
  · rintro ⟨i, a, _, ⟨ha, rfl⟩, hfault, hbefore⟩
    exact ⟨i, a, ha, hfault, fun j hj b hb => hbefore j hj b j ⟨hb, rfl⟩⟩
  · rintro ⟨i, a, ha, hfault, hbefore⟩
    refine ⟨i, a, i, ⟨ha, rfl⟩, hfault, ?_⟩
    rintro j hj b _ ⟨hb, rfl⟩
    exact hbefore j hj b hb

end Outcome
end TrackOverlay
