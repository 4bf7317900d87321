import TrackOverlay.Parameters

/-!
# Settings — what a mapping says about the parameters

A mapping gives values to names, some of which are names of parameters.  This file defines

* `Parameters.Configures` — settings give these parameters: the last setting of a parameter counts, and
  one without a setting has its default;
* `Parameters.known` and `Parameters.completed` — the settings that name a parameter, without and with
  the defaults of the parameters that none of them names;
* `Parameters.Bound.Broken` and `Parameters.Bound.Reports` — the comparison that breaks a bound, and the
  refusal that names the first broken bound with its value.

Settings matter only through the parameters that they give, and these are refused exactly if a bound is
broken (`Parameters.ofSettings_decides`).  Equality of doubles is equality of their bits here, so reading
back accepted parameters keeps the sign of a zero and what is not a number.
-/

namespace TrackOverlay
namespace Parameters

variable {q r : Parameters} {settings : List Setting}

theorem ext_get (hreal : ∀ p, q.get p = r.get p) (hlength : q.prefixLength = r.prefixLength) :
    q = r := by
  cases q
  cases r
  cases hreal .markerLifetime
  cases hreal .trackHeightOffset
  cases hreal .assignHeightOffset
  cases hreal .textHeightOffset
  cases hreal .textScale
  cases hreal .trackBoxScale
  cases hreal .detectBoxScale
  cases hreal .lineWidth
  cases hreal .probabilityThreshold
  cases hlength
  rfl

/-! ## The values that settings give -/

/-- The name under which a setting stands in a mapping. -/
def Setting.key : Setting → String
  | .real p _ => p.key
  | .prefixLength _ => prefixLengthKey
  | .unknown key => key

/-- The value that a setting gives a parameter, if it is about that one. -/
def Setting.valueFor? (p : RealParameter) : Setting → Option Float
  | .real r x => if r = p then some x else none
  | .prefixLength _ => none
  | .unknown _ => none

def Setting.length? : Setting → Option Int
  | .real .. => none
  | .prefixLength n => some n
  | .unknown _ => none

/-- Settings give these parameters: each has the value of its last setting, or its default. -/
structure Configures (settings : List Setting) (q : Parameters) : Prop where
  real : ∀ p, q.get p = (settings.filterMap (Setting.valueFor? p)).getLastD (({} : Parameters).get p)
  prefixLength : q.prefixLength =
    (settings.filterMap Setting.length?).getLastD ({} : Parameters).prefixLength

theorem Setting.eq_of_valueFor? {s : Setting} {p : RealParameter} {x : Float}
    (h : s.valueFor? p = some x) : s = .real p x := by
  cases s with
  | real r y =>
      by_cases hr : r = p
      · subst hr
        simpa [valueFor?] using h
      · simp [valueFor?, hr] at h
  | prefixLength n => simp [valueFor?] at h
  | unknown key => simp [valueFor?] at h

theorem get_apply (q : Parameters) (s : Setting) (p : RealParameter) :
    (q.apply s).get p = (s.valueFor? p).getD (q.get p) := by
  cases s with
  | real r x =>
      by_cases hr : r = p
      · simp [apply, get_set, Setting.valueFor?, hr]
      · simp [apply, get_set, Setting.valueFor?, hr, Ne.symm hr]
  | prefixLength n => cases p <;> rfl
  | unknown key => rfl

theorem prefixLength_apply (q : Parameters) (s : Setting) :
    (q.apply s).prefixLength = s.length?.getD q.prefixLength := by
  cases s with
  | real p x => cases p <;> rfl
  | prefixLength n => rfl
  | unknown key => rfl

/-- Where a setting overwrites what it gives and keeps all else, the last one to give it counts. -/
theorem view_foldl_apply {α : Type} (view : Parameters → α) {given? : Setting → Option α}
    (happly : ∀ q s, view (q.apply s) = (given? s).getD (view q)) (settings : List Setting)
    (q : Parameters) :
    view (settings.foldl apply q) = (settings.filterMap given?).getLastD (view q) := by
  induction settings generalizing q with
  | nil => rfl
  | cons s settings ih =>
      rw [List.foldl_cons, ih, happly, List.filterMap_cons]
      cases given? s with
      | none => rfl
      | some x => rw [List.getLastD_cons, Option.getD_some]

theorem get_foldl_apply (settings : List Setting) (q : Parameters) (p : RealParameter) :
    (settings.foldl apply q).get p =
      (settings.filterMap (Setting.valueFor? p)).getLastD (q.get p) :=
  view_foldl_apply (fun q => q.get p) (fun q s => get_apply q s p) settings q

theorem prefixLength_foldl_apply (settings : List Setting) (q : Parameters) :
    (settings.foldl apply q).prefixLength =
      (settings.filterMap Setting.length?).getLastD q.prefixLength :=
  view_foldl_apply prefixLength prefixLength_apply settings q

theorem configures_foldl_apply (settings : List Setting) :
    Configures settings (settings.foldl apply {}) :=
  ⟨get_foldl_apply settings {}, prefixLength_foldl_apply settings {}⟩

/-! ## Settings without a name, names without a setting -/

/-- The names of the ten parameters. -/
def keys : List String :=
  ["marker_lifetime", "track_height_offset", "assign_height_offset", "text_height_offset", "text_scale",
    "track_box_scale", "detect_box_scale", "line_width", "probability_display_threshold",
    "uuid_prefix_length"]

/-- The settings that name a parameter. -/
def known (settings : List Setting) : List Setting := settings.filter fun s => s.key ∈ keys

/-- The defaults of the parameters that no setting names. -/
def missing (settings : List Setting) : List Setting :=
  ({} : Parameters).toSettings.filter fun s => s.key ∉ settings.map Setting.key

/-- The settings that name a parameter, and the defaults of all others. -/
def completed (settings : List Setting) : List Setting := known settings ++ missing settings

theorem key_mem_keys (p : RealParameter) : p.key ∈ keys := by
  cases p <;> decide

theorem apply_of_key_notMem {s : Setting} (h : s.key ∉ keys) : q.apply s = q := by
  cases s with
  | real p x => exact absurd (key_mem_keys p) h
  | prefixLength n => exact absurd (by decide : prefixLengthKey ∈ keys) h
  | unknown key => rfl

theorem foldl_apply_known (settings : List Setting) (q : Parameters) :
    (known settings).foldl apply q = settings.foldl apply q := by
  have hstep : (fun (r : Parameters) s => if decide (s.key ∈ keys) then r.apply s else r) = apply := by
    funext r s
    by_cases hs : s.key ∈ keys
    · simp [hs]
    · simp [hs, apply_of_key_notMem hs]
  rw [known, List.foldl_filter, hstep]

/-- Settings that change nothing one by one change nothing together. -/
theorem foldl_apply_eq_self (h : ∀ s ∈ settings, q.apply s = q) : settings.foldl apply q = q := by
  induction settings with
  | nil => rfl
  | cons s settings ih =>
      rw [List.foldl_cons, h s List.mem_cons_self]
      exact ih fun t ht => h t (List.mem_cons_of_mem s ht)

/-- All ten settings together leave nothing of what was there before. -/
theorem foldl_apply_toSettings (q r : Parameters) : q.toSettings.foldl apply r = q := by
  refine ext_get ?_ ?_
  · intro p
    rw [get_foldl_apply]
    cases p <;> rfl
  · rw [prefixLength_foldl_apply]
    rfl

theorem get_of_key_notMem {p : RealParameter} (h : p.key ∉ settings.map Setting.key) :
    (settings.foldl apply q).get p = q.get p := by
  have hnone : settings.filterMap (Setting.valueFor? p) = [] := by
    refine List.filterMap_eq_nil_iff.2 ?_
    intro s hs
    refine Option.eq_none_iff_forall_ne_some.2 ?_
    rintro x hx
    rw [Setting.eq_of_valueFor? hx] at hs
    exact h (List.mem_map.2 ⟨_, hs, rfl⟩)
  rw [get_foldl_apply, hnone]
  rfl

theorem prefixLength_of_key_notMem (h : prefixLengthKey ∉ settings.map Setting.key) :
    (settings.foldl apply q).prefixLength = q.prefixLength := by
  have hnone : settings.filterMap Setting.length? = [] := by
    refine List.filterMap_eq_nil_iff.2 ?_
    rintro s hs
    cases s with
    | real p x => rfl
    | prefixLength n => exact absurd (List.mem_map.2 ⟨_, hs, rfl⟩) h
    | unknown key => rfl
  rw [prefixLength_foldl_apply, hnone]
  rfl

theorem set_get_self (q : Parameters) (p : RealParameter) : q.set (q.get p) p = q := by
  cases p <;> rfl

/-- A default that no setting has replaced is set already. -/
theorem apply_missing {s : Setting} (h : s ∈ missing settings) :
    (settings.foldl apply {}).apply s = settings.foldl apply {} := by
  rcases List.mem_filter.1 h with ⟨hdefault, hkey⟩
  have hkey : s.key ∉ settings.map Setting.key := by simpa using hkey
  rcases List.mem_append.1 hdefault with hreal | hlength
  · rcases List.mem_map.1 hreal with ⟨p, -, rfl⟩
    rw [← get_of_key_notMem (q := {}) hkey]
    exact set_get_self _ p
  · obtain rfl := List.mem_singleton.1 hlength
    rw [← prefixLength_of_key_notMem (q := {}) hkey]
    rfl

theorem foldl_apply_completed (settings : List Setting) :
    (completed settings).foldl apply {} = settings.foldl apply {} := by
  rw [completed, List.foldl_append, foldl_apply_known]
  exact foldl_apply_eq_self fun s hs => apply_missing hs

/-! ## Broken bounds -/

/-- The comparison that breaks a bound. -/
def Bound.Broken (q : Parameters) : Bound → Prop
  | .nonNegative p => q.get p < 0.0
  | .positive p => q.get p ≤ 0.0
  | .unit p => ¬ (0.0 ≤ q.get p ∧ q.get p ≤ 1.0)
  | .prefixPositive => q.prefixLength ≤ 0

/-- The refusal of the value behind a bound. -/
def Bound.refusal (q : Parameters) : Bound → Refusal
  | .nonNegative p => .negative p (q.get p)
  | .positive p => .notPositive p (q.get p)
  | .unit p => .outsideUnit p (q.get p)
  | .prefixPositive => .prefixNotPositive q.prefixLength

/-- The name of the parameter that a bound is about. -/
def Bound.key : Bound → String
  | .nonNegative p => p.key
  | .positive p => p.key
  | .unit p => p.key
  | .prefixPositive => prefixLengthKey

/-- What a bound asks of its parameter, in words. -/
def Bound.demand : Bound → String
  | .nonNegative _ => "non-negative"
  | .positive _ => "positive"
  | .unit _ => "in [0, 1]"
  | .prefixPositive => "positive"

def Bound.valueText (q : Parameters) : Bound → String
  | .nonNegative p => Shortest.text (q.get p)
  | .positive p => Shortest.text (q.get p)
  | .unit p => Shortest.text (q.get p)
  | .prefixPositive => toString q.prefixLength

theorem Bound.message_refusal (q : Parameters) (bound : Bound) :
    (bound.refusal q).message =
      bound.key ++ " must be " ++ bound.demand ++ ", got " ++ bound.valueText q := by
  -- the fixed words of a message are one text
  have hwords (name value : String) (words : String) :
      name ++ " must be " ++ words ++ ", got " ++ value =
        name ++ (" must be " ++ words ++ ", got ") ++ value := by
    simp only [String.append_assoc]
  rw [hwords]
  cases bound <;> rfl

theorem Bound.refusal?_eq_some_iff {bound : Bound} {refusal : Refusal} :
    bound.refusal? q = some refusal ↔ bound.Broken q ∧ refusal = bound.refusal q := by
  cases bound with
  | nonNegative p => simp [refusal?, Broken, Bound.refusal, eq_comm]
  | positive p => simp [refusal?, Broken, Bound.refusal, eq_comm]
  | unit p => simp [refusal?, Broken, Bound.refusal, eq_comm]
  | prefixPositive => simp [refusal?, Broken, Bound.refusal, eq_comm]

theorem Bound.refusal?_eq_none_iff_kept {bound : Bound} :
    bound.refusal? q = none ↔ ¬ bound.Broken q := by
  rw [Option.eq_none_iff_forall_ne_some]
  simp only [ne_eq, refusal?_eq_some_iff, not_and, forall_eq_apply_imp_iff]

/-- The order in which broken bounds are reported: the lifetime, then sizes and widths, the threshold, and
the length of the prefix. -/
def precedence : List Bound :=
  [.nonNegative .markerLifetime, .positive .textScale, .positive .trackBoxScale,
    .positive .detectBoxScale, .positive .lineWidth, .unit .probabilityThreshold, .prefixPositive]

theorem bounds_eq_precedence : bounds = precedence := rfl

/-- A refusal names the first broken bound: the bounds before it are kept, and refusal and message are
those of its parameter and value. -/
structure Bound.Reports (q : Parameters) (refusal : Refusal) (bound : Bound) : Prop where
  broken : bound.Broken q
  first : ∃ before after, precedence = before ++ bound :: after ∧
    ∀ earlier ∈ before, ¬ earlier.Broken q
  cause : refusal = bound.refusal q
  message : refusal.message =
    bound.key ++ " must be " ++ bound.demand ++ ", got " ++ bound.valueText q

theorem check_eq_error_iff_refusal? {refusal : Refusal} :
    q.check = .error refusal ↔ q.refusal? = some refusal := by
  unfold check
  cases q.refusal? with
  | none => simp
  | some other => simp

theorem check_eq_error_iff {refusal : Refusal} :
    q.check = .error refusal ↔ ∃ bound, Bound.Reports q refusal bound := by
  rw [check_eq_error_iff_refusal?, refusal?, bounds_eq_precedence, List.findSome?_eq_some_iff]
  simp only [Bound.refusal?_eq_some_iff, Bound.refusal?_eq_none_iff_kept]
  constructor
  · rintro ⟨before, bound, after, hbounds, ⟨hbroken, rfl⟩, hkept⟩
    exact ⟨bound, hbroken, ⟨before, after, hbounds, hkept⟩, rfl, bound.message_refusal q⟩
  · rintro ⟨bound, hbroken, ⟨before, after, hbounds, hkept⟩, hcause, -⟩
    exact ⟨before, bound, after, hbounds, ⟨hbroken, hcause⟩, hkept⟩

theorem exists_check_eq_error_iff :
    (∃ refusal, q.check = .error refusal) ↔ ∃ bound ∈ precedence, bound.Broken q := by
  simp only [check_eq_error_iff_refusal?, ← Option.isSome_iff_exists, refusal?, bounds_eq_precedence,
    List.findSome?_isSome_iff]
  simp only [Option.isSome_iff_exists, Bound.refusal?_eq_some_iff, exists_and_left, exists_eq, and_true]

theorem check_eq_ok_iff_kept :
    q.check = .ok r ↔ q = r ∧ ∀ bound ∈ bounds, ¬ bound.Broken q := by
  have hkept : (∀ bound ∈ bounds, ¬ bound.Broken q) ↔ q.refusal? = none := by
    simp only [← Bound.refusal?_eq_none_iff_kept]
    exact List.findSome?_eq_none_iff.symm
  rw [hkept]
  cases hrefusal : q.refusal? with
  | none => simp [check, hrefusal]
  | some refusal => simp [check, hrefusal]

/-! ## Parameters read from settings -/

/-- Settings without the names that are no parameter's, and those completed by the defaults, have the same
outcome as all of them.  The parameters that they give are accepted unless a bound is broken, and then the
first broken one is reported.  Accepted parameters are the ones given, and reading them back gives them
again. -/
theorem ofSettings_decides (settings : List Setting) :
    ofSettings (known settings) = ofSettings settings ∧
      ofSettings (completed settings) = ofSettings settings ∧
      ∃ given, Configures settings given ∧
        ((∃ refusal, ofSettings settings = .error refusal) ↔ ∃ bound ∈ precedence, bound.Broken given) ∧
        (∀ refusal, ofSettings settings = .error refusal ↔ ∃ bound, Bound.Reports given refusal bound) ∧
        ∀ q, ofSettings settings = .ok q → q = given ∧ ofSettings q.toSettings = .ok q := by
  refine ⟨?_, ?_, settings.foldl apply {}, configures_foldl_apply settings, exists_check_eq_error_iff,
    fun refusal => check_eq_error_iff, ?_⟩
  · unfold ofSettings
    rw [foldl_apply_known]
  · unfold ofSettings
    rw [foldl_apply_completed]
  · intro q haccepted
    have hgiven : settings.foldl apply {} = q := (check_eq_ok_iff_kept.1 haccepted).1
    refine ⟨hgiven.symm, ?_⟩
    calc ofSettings q.toSettings
        = q.check := by unfold ofSettings; rw [foldl_apply_toSettings]
      _ = ofSettings settings := by rw [← hgiven]; rfl
      _ = .ok q := haccepted

/-- Settings with a negative zero, an infinity and a scale that is not a number. -/
def specialSettings : List Setting :=
  [.unknown "voxel_leaf_size", .real .trackHeightOffset (-0.0), .real .textScale (0.0 / 0.0),
    .real .lineWidth (1.0 / 0.0), .prefixLength 8]

/-- Settings that break two bounds, the one that is checked last before the other. -/
def brokenSettings : List Setting := [.prefixLength 0, .real .lineWidth (-1.0), .real .textScale 0.7]

/-- Special values are read back as they are; of two broken bounds the one that is checked first is
reported. -/
theorem ofSettings_decides_special :
    let q : Parameters :=
      { trackHeightOffset := -0.0, textScale := 0.0 / 0.0, lineWidth := 1.0 / 0.0, prefixLength := 8 }
    ofSettings specialSettings = .ok q ∧ ofSettings q.toSettings = .ok q ∧
      ofSettings (completed brokenSettings) = .error (.notPositive .lineWidth (-1.0)) := by
  intro q
  have haccepted : ofSettings specialSettings = .ok q := rfl
  have hrefused : ofSettings brokenSettings = .error (.notPositive .lineWidth (-1.0)) := rfl
  rcases ofSettings_decides specialSettings with ⟨-, -, given, -, -, -, hread⟩
  exact ⟨haccepted, (hread q haccepted).2, (ofSettings_decides brokenSettings).2.1.trans hrefused⟩

end Parameters
end TrackOverlay
