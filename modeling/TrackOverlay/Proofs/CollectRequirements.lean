import TrackOverlay.Proofs.Arrays
import TrackOverlay.Proofs.Reordering
import TrackOverlay.Proofs.Requirements

/-!
# CollectRequirements — what trackers must bring along to be collected

A collection checks tracker by tracker and, for each of them, one thing after the other.  What it asks
a tracker must be answered before anything is made of it.  This file defines

* `Cycle.trackerRequirements` — what is required of the tracker at a position, in the order in which
  it is checked, and `Cycle.collectRequirements` of all trackers;
* `Cycle.Accepts` — a tracker meets all of it;
* `Cycle.Records` — a snapshot holds what the cycle and the tracker say.

A collection that succeeds records every tracker in its place, and one that is refused reports the
first misfit of the first tracker that has one (`Cycle.collect_reports_first_misfit`).  Of trackers
that always answer, nothing but the position, what is assigned and the size of the existence vector
is required.
-/

namespace TrackOverlay

open Requirement Outcome

/-! ## Positions -/

/-- Whether coordinates are an array of exactly three entries, on at most so many levels. -/
def Coordinates.IsTriple (limit : Nat) (k : Coordinates) : Prop :=
  k.IsArray limit ∧ k.leaves.length = 3

def Position.requirements (limit : Nat) (k : Coordinates) : List Requirement :=
  [⟨k.IsArray limit, k.arrayFault limit⟩, ⟨k.leaves.length = 3, .positionSize k.leaves.length⟩]

theorem Position.decides_ofCoordinates (limit : Nat) (k : Coordinates) :
    Decides (requirements limit k) (fault? (ofCoordinates limit k)) := by
  have hfault : fault? (ofCoordinates limit k) =
      if k.IsArray limit then
        if k.leaves.length = 3 then none else some (.positionSize k.leaves.length)
      else some (k.arrayFault limit) := by
    unfold ofCoordinates
    by_cases harray : k.IsArray limit
    · rw [if_pos (Coordinates.isArray_iff.2 harray), if_pos harray]
      match k.leaves with
      | [] => rfl
      | [_] => rfl
      | [_, _] => rfl
      | [_, _, _] => rfl
      | _ :: _ :: _ :: _ :: _ => simp
    · rw [if_neg (Coordinates.isArray_iff.not.2 harray), if_neg harray]
      rfl
  rw [hfault]
  exact Decides.guard fun _ => Decides.guard fun _ => decides_nil

/-- Three numbers in parts of different sizes are no position. -/
example :
    let number := Coordinates.number 1.0
    fault? (Position.ofCoordinates 64 (.nested [.nested [number, number], number])) =
        some (.positionRagged [2]) ∧
      fault? (Position.ofCoordinates 64 (.nested [.nested [], .nested [number, number, number]])) =
        some (.positionRagged [2]) ∧
      fault? (Position.ofCoordinates 64 (.nested [.nested [number], .nested [number], .nested [number]])) =
        none := by decide

theorem Position.toList_of_ofCoordinates {limit : Nat} {k : Coordinates} {p : Position}
    (h : ofCoordinates limit k = .ok p) : p.toList = k.leaves := by
  unfold ofCoordinates at h
  split at h
  · split at h
    · next hleaves =>
        cases h
        exact hleaves.symm
    · simp at h
  · simp at h

/-- What is required of the object that a tracker sees: that it is answered, and where it is. -/
def Tracker.objectRequirements (t : Tracker) (time : Float) : List Requirement :=
  ofAnswer (t.estimate time) fun seen => Position.requirements t.maxDepth seen.2

theorem Tracker.decides_trackedObject (t : Tracker) (time : Float) :
    Decides (t.objectRequirements time) (fault? (t.trackedObject time)) := by
  refine Decides.ofAnswer fun ⟨identity, place⟩ _ => ?_
  have hplace : fault? (TrackedObject.ofCoordinates t.maxDepth identity place) =
      fault? (Position.ofCoordinates t.maxDepth place) := fault?_map _ _
  rw [hplace]
  exact Position.decides_ofCoordinates t.maxDepth place

namespace Cycle

variable {c : Cycle} {channelCount : Int} {position : Nat} {t : Tracker} {s : Snapshot}

/-! ## Requirements of a tracker -/

/-- An assigned detection must exist and come from a configured channel; without an assignment there is
nothing to require. -/
def assignmentRequirements (c : Cycle) (channelCount : Int) (position : Nat) : List Requirement :=
  match c.assignment position with
  | none => []
  | some index =>
      [⟨0 ≤ index ∧ index < c.detections.size,
          .violation (.assignmentIndex position index c.detections.size)⟩,
        ⟨0 ≤ c.detections.channel ∧ c.detections.channel < channelCount,
          .violation (.channelIndex c.detections.channel channelCount)⟩]

/-- What is required of an existence vector: one probability per channel. -/
def sizeRequirement (channelCount : Int) (identityText : String) (existence : List Float) :
    Requirement :=
  ⟨(existence.length : Int) = channelCount,
    .violation (.vectorSize identityText existence.length channelCount)⟩

/-- What is required of what a tracker says of itself and of what is assigned to it. -/
def snapshotRequirements (c : Cycle) (channelCount : Int) (position : Nat) (t : Tracker) :
    List Requirement :=
  ofAnswer t.identityText fun identityText =>
    c.assignmentRequirements channelCount position ++
      ofAnswer t.existence fun existence =>
        sizeRequirement channelCount identityText existence :: ofAnswer t.total fun _ => []

/-- What is required of the tracker at a position: where it sees its object, what is assigned to it, and
the size of its existence vector, each of its answers where it is needed. -/
def trackerRequirements (c : Cycle) (channelCount : Int) (position : Nat) (t : Tracker) :
    List Requirement :=
  t.objectRequirements c.time ++ c.snapshotRequirements channelCount position t

theorem fault?_associated {index : Int} (h : c.assignment position = some index) :
    fault? (c.associated channelCount position) =
      if 0 ≤ index ∧ index < c.detections.size then
        if 0 ≤ c.detections.channel ∧ c.detections.channel < channelCount then none
        else some (.violation (.channelIndex c.detections.channel channelCount))
      else some (.violation (.assignmentIndex position index c.detections.size)) := by
  simp only [associated, h]
  by_cases hindex : 0 ≤ index ∧ index < c.detections.size
  · have hlt : index.toNat < c.detections.objects.length := by
      have hsize : index < (c.detections.objects.length : Int) := hindex.2
      omega
    rw [if_pos hindex, if_pos hindex.1, List.getElem?_eq_getElem hlt]
    by_cases hchannel : 0 ≤ c.detections.channel ∧ c.detections.channel < channelCount
    · simp only [if_pos hchannel, fault?_ok]
    · simp only [if_neg hchannel, fault?_error]
  · have hnone : (if 0 ≤ index then c.detections.objects[index.toNat]? else none) = none := by
      by_cases hnonneg : 0 ≤ index
      · have hsize : ¬ index < (c.detections.objects.length : Int) := fun hlt =>
          hindex ⟨hnonneg, hlt⟩
        rw [if_pos hnonneg]
        exact List.getElem?_eq_none (by omega)
      · exact if_neg hnonneg
    rw [if_neg hindex, hnone]
    rfl

theorem decides_associated (c : Cycle) (channelCount : Int) (position : Nat) :
    Decides (c.assignmentRequirements channelCount position)
      (fault? (c.associated channelCount position)) := by
  cases h : c.assignment position with
  | none =>
      simp only [assignmentRequirements, associated, h]
      exact decides_nil
  | some index =>
      rw [fault?_associated h]
      simp only [assignmentRequirements, h]
      exact Decides.guard fun _ => Decides.guard fun _ => decides_nil

theorem decides_snapshotOf (c : Cycle) (channelCount : Int) (position : Nat) (t : Tracker)
    (object : TrackedObject) :
    Decides (c.snapshotRequirements channelCount position t)
      (fault? (c.snapshotOf channelCount position t object)) := by
  refine Decides.ofAnswer fun identityText _ => ?_
  refine (decides_associated c channelCount position).bind fun detection? _ => ?_
  refine Decides.ofAnswer fun existence _ => ?_
  rw [apply_ite fault?, fault?_error]
  -- the total is asked for last, and nothing is required of it
  exact Decides.guard fun _ => Decides.ofAnswer fun _ _ => decides_nil

theorem decides_takeSnapshot (c : Cycle) (channelCount : Int) (position : Nat) (t : Tracker) :
    Decides (c.trackerRequirements channelCount position t)
      (fault? (c.takeSnapshot channelCount position t).outcome) := by
  rw [takeSnapshot, Inquiry.outcome_bind]
  exact (t.decides_trackedObject c.time).bind fun object _ =>
    c.decides_snapshotOf channelCount position t object

/-! ## Requirements of a collection -/

theorem decides_collectFrom (c : Cycle) (channelCount : Int) (ts : List Tracker) (position : Nat) :
    Decides
      ((ts.zipIdx position).flatMap fun seat => c.trackerRequirements channelCount seat.2 seat.1)
      (fault? (c.collectFrom channelCount position ts).outcome) := by
  induction ts generalizing position with
  | nil => exact decides_nil
  | cons t ts ih =>
      have hrest : fault? (c.collectFrom channelCount position (t :: ts)).outcome =
          (fault? (c.takeSnapshot channelCount position t).outcome).or
            (fault? (c.collectFrom channelCount (position + 1) ts).outcome) := by
        rw [collectFrom, Inquiry.outcome_bind]
        refine fault?_bind fun s _ => ?_
        -- putting the snapshot before the others cannot fail
        rw [Inquiry.outcome_bind]
        exact fault?_bind_pure _ _
      rw [hrest, List.zipIdx_cons, List.flatMap_cons]
      exact (decides_takeSnapshot c channelCount position t).append (ih (position + 1))

/-- What is required of all trackers, each at its own position. -/
def collectRequirements (c : Cycle) (channelCount : Int) : List Requirement :=
  c.trackers.zipIdx.flatMap fun seat => c.trackerRequirements channelCount seat.2 seat.1

theorem decides_collect (c : Cycle) (channelCount : Int) :
    Decides (c.collectRequirements channelCount) (fault? (c.collect channelCount).outcome) :=
  decides_collectFrom c channelCount c.trackers 0

/-- The tracker at a position gives all its answers, and its data fits the cycle and the count of
channels. -/
structure Accepts (c : Cycle) (channelCount : Int) (position : Nat) (t : Tracker) : Prop where
  seen : ∃ seen, t.estimate c.time = .ok seen ∧ seen.2.IsTriple t.maxDepth
  identityText : ∃ identityText, t.identityText = .ok identityText
  detection : ∀ index, c.assignment position = some index → 0 ≤ index ∧ index < c.detections.size
  channel : ∀ index, c.assignment position = some index →
    0 ≤ c.detections.channel ∧ c.detections.channel < channelCount
  existence : ∃ existence, t.existence = .ok existence ∧ (existence.length : Int) = channelCount
  total : ∃ total, t.total = .ok total

theorem forall_met_assignmentRequirements_iff :
    (∀ r ∈ c.assignmentRequirements channelCount position, r.Met) ↔
      ∀ index, c.assignment position = some index →
        (0 ≤ index ∧ index < c.detections.size) ∧
          0 ≤ c.detections.channel ∧ c.detections.channel < channelCount := by
  cases h : c.assignment position with
  | none => simp [assignmentRequirements, h]
  | some index => simp [assignmentRequirements, h]

theorem forall_met_objectRequirements_iff {time : Float} :
    (∀ r ∈ t.objectRequirements time, r.Met) ↔
      ∃ seen, t.estimate time = .ok seen ∧ seen.2.IsTriple t.maxDepth := by
  simp [Tracker.objectRequirements, forall_met_ofAnswer_iff, Position.requirements,
    Coordinates.IsTriple]

theorem forall_met_trackerRequirements_iff :
    (∀ r ∈ c.trackerRequirements channelCount position t, r.Met) ↔
      c.Accepts channelCount position t := by
  simp only [trackerRequirements, snapshotRequirements, List.forall_mem_append, List.forall_mem_cons,
    forall_met_objectRequirements_iff, forall_met_ofAnswer_iff, forall_met_assignmentRequirements_iff,
    sizeRequirement]
  constructor
  · rintro ⟨hseen, text, htext, hassigned, existence, hexistence, hsize, total, htotal, -⟩
    exact ⟨hseen, ⟨text, htext⟩, fun index h => (hassigned index h).1,
      fun index h => (hassigned index h).2, ⟨existence, hexistence, hsize⟩, ⟨total, htotal⟩⟩
  · intro h
    rcases h.identityText with ⟨text, htext⟩
    rcases h.existence with ⟨existence, hexistence, hsize⟩
    rcases h.total with ⟨total, htotal⟩
    refine ⟨h.seen, text, htext, ?_, existence, hexistence, hsize, total, htotal, by simp⟩
    exact fun index hindex => ⟨h.detection index hindex, h.channel index hindex⟩

theorem forall_met_collectRequirements_iff :
    (∀ r ∈ c.collectRequirements channelCount, r.Met) ↔
      ∀ i t, c.trackers[i]? = some t → c.Accepts channelCount i t := by
  simp only [collectRequirements, List.forall_mem_flatMap, forall_met_trackerRequirements_iff,
    Prod.forall, List.mk_mem_zipIdx_iff_getElem?]
  exact forall_comm

theorem firstUnmet_collectRequirements_iff {fault : Fault} :
    FirstUnmet (c.collectRequirements channelCount) fault ↔
      ∃ i t, c.trackers[i]? = some t ∧
        (∀ j < i, ∀ u, c.trackers[j]? = some u → c.Accepts channelCount j u) ∧
        FirstUnmet (c.trackerRequirements channelCount i t) fault := by
  rw [collectRequirements, firstUnmet_flatMap_iff]
  simp only [forall_met_trackerRequirements_iff, Prod.exists, Prod.forall, getElem?_zipIdx_iff]
  constructor
  · rintro ⟨i, t, k, ⟨ht, rfl⟩, hbefore, hfault⟩
    exact ⟨i, t, ht, fun j hj u hu => hbefore j hj u j ⟨hu, rfl⟩, hfault⟩
  · rintro ⟨i, t, ht, hbefore, hfault⟩
    refine ⟨i, t, i, ⟨ht, rfl⟩, ?_, hfault⟩
    rintro j hj u k ⟨hu, rfl⟩
    exact hbefore j hj u hu

/-! ## Records -/

/-- A snapshot with what the cycle and the tracker at a position say; without a detection the object is
shown where it was tracked. -/
structure Records (c : Cycle) (position : Nat) (t : Tracker) (s : Snapshot) : Prop where
  seen : ∃ place, t.estimate c.time = .ok (s.identity, place) ∧ s.trackerPoint = place.leaves
  identityText : t.identityText = .ok s.identityText
  time : s.time = c.time
  channel : s.channel = c.detections.channel
  associated : s.associated = (c.assignment position).isSome
  detectionPoint_some : ∀ index, c.assignment position = some index →
    ∃ detection, c.detections.objects[index.toNat]? = some detection ∧
      s.detectionPoint = detection.position.toList
  detectionPoint_none : c.assignment position = none → s.detectionPoint = s.trackerPoint
  existence : t.existence = .ok s.existence
  total : t.total = .ok s.total

/-- A tracked object has what its tracker answers, with the numbers of the position in reading order. -/
theorem exists_estimate_of_trackedObject {time : Float} {object : TrackedObject}
    (h : t.trackedObject time = .ok object) :
    ∃ place, t.estimate time = .ok (object.identity, place) ∧
      object.position.toList = place.leaves := by
  rcases bind_eq_ok_iff.1 h with ⟨⟨identity, place⟩, hseen, hobject⟩
  rcases map_eq_ok_iff.1 hobject with ⟨point, hpoint, rfl⟩
  exact ⟨place, hseen, Position.toList_of_ofCoordinates hpoint⟩

theorem Takes.records (h : Takes c.time c.detections channelCount (t, c.assignment position) s) :
    c.Records position t s := by
  rcases h with ⟨object, answers, detection?, hobject, hgives, hfinds, -, rfl⟩
  have hseen := exists_estimate_of_trackedObject hobject
  generalize hassigned : c.assignment position = assigned at hfinds
  cases hfinds with
  | nothing =>
      exact ⟨hseen, hgives.identityText, rfl, rfl, by rw [hassigned]; rfl, by simp [hassigned],
        fun _ => rfl, hgives.existence, hgives.total⟩
  | @detection index detection hdetection hchannel =>
      refine ⟨hseen, hgives.identityText, rfl, rfl, by rw [hassigned]; rfl, ?_, by simp [hassigned],
        hgives.existence, hgives.total⟩
      intro other hother
      obtain rfl : (index : Int) = other := Option.some.inj (hassigned.symm.trans hother)
      exact ⟨detection, hdetection, rfl⟩

end Cycle
end TrackOverlay
