import Mathlib.Data.List.FinRange
import Mathlib.Data.List.Indexes
import Mathlib.Data.List.Perm.Basic
import TrackOverlay.Proofs.Fitting
import TrackOverlay.Proofs.Gathering

/-!
# Reordering — cycles that differ in the order of their trackers

A collection goes through the trackers by position, but a position counts only for what is assigned
to it.  This file defines

* `Cycle.seats` — the trackers of a cycle, each with what is assigned to it;
* `Cycle.Takes` — which snapshot is taken of a seat, without any position;
* `Cycle.reorder` — the same seats in another order.

A collection succeeds seat by seat (`Cycle.collect_eq_ok_iff`), so it succeeds in every order of the
seats or in none, and the order of the snapshots is all that changes (`Cycle.Reordered.collect`).
Only the fault of a refused collection may be another one, because the first misfit is reported.
-/

namespace TrackOverlay

/-- The detection that an assigned index leads to: none if nothing is assigned, else one that exists
and comes from a configured channel. -/
inductive Detections.Finds (detections : Detections) (channelCount : Int) :
    Option Int → Option TrackedObject → Prop
  | nothing : Finds detections channelCount none none
  | detection {index : Nat} {object : TrackedObject}
      (hobject : detections.objects[index]? = some object)
      (hchannel : 0 ≤ detections.channel ∧ detections.channel < channelCount) :
      Finds detections channelCount (some index) (some object)

namespace Cycle

variable {c d : Cycle} {channelCount : Int}

/-! ## Seats -/

/-- The trackers of a cycle, each with the detection index assigned to it. -/
def seats (c : Cycle) : List (Tracker × Option Int) :=
  c.trackers.mapIdx fun position t => (t, c.assignment position)

/-- The snapshot is the one that is taken of a seat, whose data fits. -/
def Takes (time : Float) (detections : Detections) (channelCount : Int)
    (seat : Tracker × Option Int) (s : Snapshot) : Prop :=
  ∃ object answers detection?, seat.1.trackedObject time = .ok object ∧ seat.1.Gives answers ∧
    detections.Finds channelCount seat.2 detection? ∧
    (answers.existence.length : Int) = channelCount ∧
    s = answers.snapshot time detections.channel object detection?

theorem associated_eq_ok_iff {position : Nat} {detection? : Option TrackedObject} :
    c.associated channelCount position = .ok detection? ↔
      c.detections.Finds channelCount (c.assignment position) detection? := by
  unfold associated
  cases c.assignment position with
  | none =>
      constructor
      · intro hnone
        rw [← Except.ok.inj hnone]
        exact .nothing
      · intro hfinds
        cases hfinds
        rfl
  | some index =>
      constructor
      · intro hsome
        by_cases hindex : 0 ≤ index
        · obtain ⟨index, rfl⟩ := Int.eq_ofNat_of_zero_le hindex
          cases hobject : c.detections.objects[index]? with
          | none => simp [hobject] at hsome
          | some object =>
              by_cases hchannel : 0 ≤ c.detections.channel ∧ c.detections.channel < channelCount
              · simp only [hindex, Int.toNat_natCast, hobject, hchannel, and_self, if_true] at hsome
                rw [← Except.ok.inj hsome]
                exact .detection hobject hchannel
              · simp [hobject, hchannel] at hsome
        · -- a negative index finds nothing, it is refused
          simp [hindex] at hsome
      · intro hfinds
        cases hfinds with
        | detection hobject hchannel => simp [hobject, hchannel]

/-- What is taken of a tracker depends on its position only through the assignment. -/
theorem takeSnapshot_eq_ok_iff_takes {position : Nat} {t : Tracker} {s : Snapshot} :
    (c.takeSnapshot channelCount position t).outcome = .ok s ↔
      Takes c.time c.detections channelCount (t, c.assignment position) s := by
  simp only [takeSnapshot_eq_ok_iff, snapshotOf_eq_ok_iff, associated_eq_ok_iff, Takes,
    exists_and_left]

theorem collectFrom_eq_ok_iff {position : Nat} {ts : List Tracker} {taken : List Snapshot} :
    (c.collectFrom channelCount position ts).outcome = .ok taken ↔
      List.Forall₂ (Takes c.time c.detections channelCount)
        (ts.mapIdx fun i t => (t, c.assignment (position + i))) taken := by
  induction ts generalizing position taken with
  | nil => simp [collectFrom, eq_comm]
  | cons t ts ih =>
      -- the positions of the tail, counted from the next one
      have hshift : (fun i (t : Tracker) => (t, c.assignment (position + (i + 1)))) =
          fun i t => (t, c.assignment (position + 1 + i)) := by
        funext i t
        rw [Nat.add_right_comm, Nat.add_assoc]
      rw [collectFrom_cons_eq_ok_iff, List.mapIdx_cons, hshift, List.forall₂_cons_left_iff]
      simp only [takeSnapshot_eq_ok_iff_takes, ih, Nat.add_zero, exists_and_left]

/-- A collection succeeds seat by seat. -/
theorem collect_eq_ok_iff {taken : List Snapshot} :
    (c.collect channelCount).outcome = .ok taken ↔
      List.Forall₂ (Takes c.time c.detections channelCount) c.seats taken := by
  rw [collect, collectFrom_eq_ok_iff]
  simp only [Nat.zero_add]
  rfl

/-! ## Reordered cycles -/

/-- Cycles that agree in all but the order of their seats. -/
structure Reordered (c d : Cycle) : Prop where
  time_eq : d.time = c.time
  detections_eq : d.detections = c.detections
  seats_perm : d.seats.Perm c.seats

theorem Reordered.symm (h : Reordered c d) : Reordered d c :=
  ⟨h.time_eq.symm, h.detections_eq.symm, h.seats_perm.symm⟩

/-- In any order of the seats the same snapshots are taken, in that order. -/
theorem Reordered.collect (h : Reordered c d) {taken : List Snapshot}
    (htaken : (c.collect channelCount).outcome = .ok taken) :
    ∃ retaken, (d.collect channelCount).outcome = .ok retaken ∧ retaken.Perm taken := by
  have hseats := collect_eq_ok_iff.1 htaken
  rcases List.perm_comp_forall₂ h.seats_perm hseats with ⟨retaken, hretaken, hperm⟩
  refine ⟨retaken, ?_, hperm⟩
  rw [← h.time_eq, ← h.detections_eq] at hretaken
  exact collect_eq_ok_iff.2 hretaken

/-- The cycle whose trackers stand in another order, with the assignment of each one moved along. -/
def reorder (c : Cycle) (σ : Equiv.Perm (Fin c.trackers.length)) : Cycle where
  time := c.time
  trackers := List.ofFn fun i => c.trackers[σ i]
  detections := c.detections
  assignment position :=
    if h : position < c.trackers.length then c.assignment (σ ⟨position, h⟩)
    -- nobody stands there
    else c.assignment position

theorem seats_eq_ofFn (c : Cycle) :
    c.seats = List.ofFn fun i : Fin c.trackers.length => (c.trackers[i], c.assignment i) :=
  List.mapIdx_eq_ofFn c.trackers _

theorem seats_reorder (c : Cycle) (σ : Equiv.Perm (Fin c.trackers.length)) :
    (c.reorder σ).seats = List.ofFn fun i => (c.trackers[σ i], c.assignment (σ i)) := by
  apply List.ext_getElem
  · simp [seats, reorder]
  · intro position hposition _
    have hlt : position < c.trackers.length := by simpa [seats, reorder] using hposition
    simp [seats, reorder, hlt]

theorem reordered_reorder (c : Cycle) (σ : Equiv.Perm (Fin c.trackers.length)) :
    Reordered c (c.reorder σ) := by
  refine ⟨rfl, rfl, ?_⟩
  rw [seats_reorder, seats_eq_ofFn]
  exact σ.ofFn_comp_perm fun i => (c.trackers[i], c.assignment i)

/-! ## Trackers of different objects -/

/-- No two trackers see the same object. -/
def SeesApart (c : Cycle) : Prop :=
  c.trackers.Pairwise fun t u => ∀ a b, t.trackedObject c.time = .ok a →
    u.trackedObject c.time = .ok b → a.identity ≠ b.identity

theorem Takes.trackedObject {time : Float} {detections : Detections} {seat : Tracker × Option Int}
    {s : Snapshot} (h : Takes time detections channelCount seat s) :
    ∃ object, seat.1.trackedObject time = .ok object ∧ object.identity = s.identity := by
  rcases h with ⟨object, answers, detection?, hobject, -, -, -, rfl⟩
  exact ⟨object, hobject, rfl⟩

theorem map_fst_seats (c : Cycle) : c.seats.map Prod.fst = c.trackers := by
  apply List.ext_getElem
  · simp [seats]
  · intro position _ _
    simp [seats]

theorem SeesApart.pairwise_taken (h : c.SeesApart) {taken : List Snapshot}
    (htaken : (c.collect channelCount).outcome = .ok taken) :
    taken.Pairwise fun a b => a.identity ≠ b.identity := by
  have hseats := collect_eq_ok_iff.1 htaken
  unfold SeesApart at h
  rw [← map_fst_seats, List.pairwise_map] at h
  rw [List.pairwise_iff_getElem] at h ⊢
  intro i j hi hj hij
  have hlength := hseats.length_eq
  rcases (hseats.get (by omega) hi).trackedObject with ⟨a, ha, haid⟩
  rcases (hseats.get (by omega) hj).trackedObject with ⟨b, hb, hbid⟩
  have hne := h i j (by omega) (by omega) hij a b ha hb
  rwa [haid, hbid] at hne

end Cycle
end TrackOverlay
