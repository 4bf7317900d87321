import TrackOverlay.Proofs.FirstFault

/-!
# Requirements — conditions in the order in which they are checked

`FirstFault` computes the fault that an operation ends with.  This file says what that fault means:
an operation checks conditions one after the other and reports the first one that its data does not
meet.  It defines

* `Requirement` — a condition with the fault that reports its breach;
* `Requirement.FirstUnmet` — a fault reports the first of some requirements that is not met;
* `Requirement.Decides` — some requirements settle whether there is a fault, and which.

Deciding lists are put together as the operations are: one operation after another
(`Decides.append`, `Decides.bind`), one item of a list after another (`Decides.findSome?`).  An answer
that somebody else gives is required to be there first of all (`Requirement.ofAnswer`).
-/

namespace TrackOverlay

/-- A condition on data, and the fault that reports data without it. -/
structure Requirement where
  Met : Prop
  fault : Fault

namespace Requirement

/-- The fault of the first requirement that is not met; those after it are not looked at. -/
inductive FirstUnmet : List Requirement → Fault → Prop
  | here {r : Requirement} {rest : List Requirement} (hunmet : ¬ r.Met) :
      FirstUnmet (r :: rest) r.fault
  | later {r : Requirement} {rest : List Requirement} {fault : Fault} (hmet : r.Met)
      (hrest : FirstUnmet rest fault) : FirstUnmet (r :: rest) fault

/-- The requirements settle an outcome: without a fault all are met, else the fault reports the first
that is not. -/
def Decides (requirements : List Requirement) : Option Fault → Prop
  | none => ∀ r ∈ requirements, r.Met
  | some fault => FirstUnmet requirements fault

variable {α β : Type} {requirements later : List Requirement} {fault other : Fault}
  {found next : Option Fault}

/-! ## First unmet requirements -/

theorem FirstUnmet.exists_unmet (h : FirstUnmet requirements fault) :
    ∃ r ∈ requirements, ¬ r.Met := by
  induction h with
  | here hunmet => exact ⟨_, List.mem_cons_self, hunmet⟩
  | later _ _ ih =>
      rcases ih with ⟨r, hr, hunmet⟩
      exact ⟨r, List.mem_cons_of_mem _ hr, hunmet⟩

theorem FirstUnmet.unique (h : FirstUnmet requirements fault)
    (hother : FirstUnmet requirements other) : fault = other := by
  induction h with
  | here hunmet =>
      cases hother with
      | here => rfl
      | later hmet => exact absurd hmet hunmet
  | later hmet _ ih =>
      cases hother with
      | here hunmet => exact absurd hmet hunmet
      | later _ hrest => exact ih hrest

theorem FirstUnmet.append_left (h : FirstUnmet requirements fault) :
    FirstUnmet (requirements ++ later) fault := by
  induction h with
  | here hunmet => exact .here hunmet
  | later hmet _ ih => exact .later hmet ih

theorem FirstUnmet.append_right (hmet : ∀ r ∈ requirements, r.Met) (h : FirstUnmet later fault) :
    FirstUnmet (requirements ++ later) fault := by
  induction requirements with
  | nil => exact h
  | cons r rest ih =>
      exact .later (hmet r List.mem_cons_self) (ih fun q hq => hmet q (List.mem_cons_of_mem _ hq))

theorem firstUnmet_append_iff :
    FirstUnmet (requirements ++ later) fault ↔
      FirstUnmet requirements fault ∨ (∀ r ∈ requirements, r.Met) ∧ FirstUnmet later fault := by
  constructor
  · intro h
    induction requirements with
    | nil => exact .inr ⟨fun r hr => by simp at hr, h⟩
    | cons r rest ih =>
        cases h with
        | here hunmet => exact .inl (.here hunmet)
        | later hmet hrest =>
            rcases ih hrest with hfirst | ⟨hall, hlater⟩
            · exact .inl (.later hmet hfirst)
            · exact .inr ⟨List.forall_mem_cons.2 ⟨hmet, hall⟩, hlater⟩
  · rintro (h | ⟨hmet, h⟩)
    · exact h.append_left
    · exact h.append_right hmet

/-- What is required of a list of items is first broken by the item at the least position. -/
theorem firstUnmet_flatMap_iff {items : List α} {required : α → List Requirement} :
    FirstUnmet (items.flatMap required) fault ↔
      ∃ (i : Nat) (a : α), items[i]? = some a ∧
        (∀ j < i, ∀ b, items[j]? = some b → ∀ r ∈ required b, r.Met) ∧
        FirstUnmet (required a) fault := by
  induction items with
  | nil =>
      constructor
      · intro h
        cases h
      · rintro ⟨i, a, ha, -⟩
        simp at ha
  | cons a rest ih =>
      -- position zero is the head, a later position counts on in the rest
      rw [List.flatMap_cons, firstUnmet_append_iff, ih]
      constructor
      · rintro (hfirst | ⟨hmet, i, b, hb, hbefore, hfault⟩)
        · exact ⟨0, a, rfl, fun j hj => absurd hj (Nat.not_lt_zero j), hfirst⟩
        · refine ⟨i + 1, b, hb, fun j hj => ?_, hfault⟩
          cases j with
          | zero =>
              rintro _ ⟨⟩
              exact hmet
          | succ j => exact hbefore j (Nat.lt_of_succ_lt_succ hj)
      · rintro ⟨i, b, hb, hbefore, hfault⟩
        cases i with
        | zero =>
            cases hb
            exact .inl hfault
        | succ i =>
            exact .inr ⟨hbefore 0 (Nat.succ_pos i) a rfl, i, b, hb,
              fun j hj => hbefore (j + 1) (Nat.succ_lt_succ hj), hfault⟩

/-! ## Deciding requirements -/

theorem decides_nil : Decides [] none := fun r hr => by simp at hr

/-- What is checked later counts only if nothing was found before. -/
theorem Decides.append (h : Decides requirements found) (hlater : Decides later next) :
    Decides (requirements ++ later) (found.or next) := by
  cases found with
  | some fault => exact FirstUnmet.append_left h
  | none =>
      cases next with
      | some fault => exact FirstUnmet.append_right h hlater
      | none =>
          intro r hr
          rcases List.mem_append.1 hr with hr | hr
          · exact h r hr
          · exact hlater r hr

/-- A condition that is checked before anything else. -/
theorem Decides.guard {p : Prop} [Decidable p] (h : p → Decides later next) :
    Decides (⟨p, fault⟩ :: later) (if p then next else some fault) := by
  by_cases hp : p
  · rw [if_pos hp]
    cases next with
    | none => exact List.forall_mem_cons.2 ⟨hp, h hp⟩
    | some other => exact FirstUnmet.later hp (h hp)
  · rw [if_neg hp]
    exact FirstUnmet.here hp

/-- What goes on with a result is checked after what led to it. -/
theorem Decides.bind {x : Except Fault α} {f : α → Except Fault β}
    (hx : Decides requirements (Outcome.fault? x))
    (hf : ∀ a, x = .ok a → Decides later (Outcome.fault? (f a))) :
    Decides (requirements ++ later) (Outcome.fault? (x >>= f)) := by
  cases x with
  | error fault => exact FirstUnmet.append_left hx
  | ok a => exact hx.append (hf a rfl)

/-- What is required of an answer: that there is one, and then of what it says. -/
def ofAnswer (answer : Except Fault α) (required : α → List Requirement) : List Requirement :=
  match answer with
  | .ok a => required a
  | .error fault => [⟨False, fault⟩]

theorem Decides.ofAnswer {answer : Except Fault α} {f : α → Except Fault β}
    {required : α → List Requirement}
    (h : ∀ a, answer = .ok a → Decides (required a) (Outcome.fault? (f a))) :
    Decides (Requirement.ofAnswer answer required) (Outcome.fault? (answer >>= f)) := by
  cases answer with
  | error fault => exact FirstUnmet.here not_false
  | ok a => exact h a rfl

theorem forall_met_ofAnswer_iff {answer : Except Fault α} {required : α → List Requirement} :
    (∀ r ∈ ofAnswer answer required, r.Met) ↔
      ∃ a, answer = .ok a ∧ ∀ r ∈ required a, r.Met := by
  cases answer with
  | error fault => simp [ofAnswer]
  | ok a => simp [ofAnswer]

/-- The items of a list are checked one after the other. -/
theorem Decides.findSome? {items : List α} {required : α → List Requirement}
    {fault? : α → Option Fault} (h : ∀ a ∈ items, Decides (required a) (fault? a)) :
    Decides (items.flatMap required) (items.findSome? fault?) := by
  induction items with
  | nil => exact decides_nil
  | cons a rest ih =>
      have hrest := ih fun b hb => h b (List.mem_cons_of_mem _ hb)
      have hboth := (h a List.mem_cons_self).append hrest
      -- the search goes on where the fault of the head is missing, as `or` does
      rw [List.flatMap_cons, List.findSome?_cons]
      cases hfault : fault? a with
      | none => simpa [hfault] using hboth
      | some fault => simpa [hfault] using hboth

theorem Decides.eq_none_iff (h : Decides requirements found) :
    found = none ↔ ∀ r ∈ requirements, r.Met := by
  cases found with
  | none => exact ⟨fun _ => h, fun _ => rfl⟩
  | some fault =>
      rcases FirstUnmet.exists_unmet h with ⟨r, hr, hunmet⟩
      simpa using ⟨r, hr, hunmet⟩

theorem Decides.eq_some_iff (h : Decides requirements found) :
    found = some fault ↔ FirstUnmet requirements fault := by
  constructor
  · rintro rfl
    exact h
  · intro hfault
    cases found with
    | none =>
        rcases hfault.exists_unmet with ⟨r, hr, hunmet⟩
        exact absurd (h r hr) hunmet
    | some other => rw [FirstUnmet.unique h hfault]

/-! ## Outcomes -/

variable {outcome : Except Fault α}

theorem Decides.exists_ok_iff (h : Decides requirements (Outcome.fault? outcome)) :
    (∃ a, outcome = .ok a) ↔ ∀ r ∈ requirements, r.Met := by
  rw [← h.eq_none_iff]
  cases outcome with
  | error fault => simp
  | ok a => simp

theorem Decides.eq_error_iff (h : Decides requirements (Outcome.fault? outcome)) :
    outcome = .error fault ↔ FirstUnmet requirements fault := by
  rw [← h.eq_some_iff, Outcome.fault?_eq_some_iff]

end Requirement
end TrackOverlay
