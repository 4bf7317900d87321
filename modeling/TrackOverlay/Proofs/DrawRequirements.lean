import TrackOverlay.Proofs.Drawability
import TrackOverlay.Proofs.Influence
import TrackOverlay.Proofs.Requirements

/-!
# DrawRequirements — what a group must bring along to be drawn

Snapshots that were not collected may hold points and vectors of any length, any channel and any
probability.  This file defines

* `Canvas.drawRequirements` — what a drawing requires of a group, in the order in which it is checked;
* `Canvas.Drawable` — the groups that meet all of it.

A drawing checks exactly these requirements (`Canvas.decides_drawGroup`).  The label is required of
the first snapshot alone, and a channel and a detection only of snapshots with an association.
-/

namespace TrackOverlay

/-- Whether a double stands for a number. -/
def Binary64.IsFinite (b : Binary64) : Prop :=
  ∃ negative mantissa exponent, b = .finite negative mantissa exponent

theorem Binary64.isFinite_iff {b : Binary64} :
    b.IsFinite ↔ b ≠ .nan ∧ ∀ negative, b ≠ .infinite negative := by
  unfold IsFinite
  cases b with
  | nan => simp
  | infinite negative => simp
  | finite negative mantissa exponent => simp

/-- The snapshot with another channel and another detection, unless those are an association's. -/
def Snapshot.relinked (channel : Int) (detectionPoint : List Float) (s : Snapshot) : Snapshot :=
  if s.associated then s else { s with channel := channel, detectionPoint := detectionPoint }

theorem Snapshot.sightedAlike_relinked (channel : Int) (detectionPoint : List Float) (s : Snapshot) :
    s.SightedAlike (s.relinked channel detectionPoint) := by
  by_cases h : s.associated = true
  · rw [relinked, if_pos h]
    exact ⟨rfl, rfl, fun _ => rfl, fun _ => rfl⟩
  · rw [relinked, if_neg h]
    exact ⟨rfl, rfl, fun hassociated => absurd hassociated h, fun hassociated => absurd hassociated h⟩

theorem Snapshot.anchorsAlike_relinked (channel : Int) (detectionPoint : List Float) (s : Snapshot) :
    s.AnchorsAlike (s.relinked channel detectionPoint) := by
  unfold relinked
  cases s.associated with
  | false => exact ⟨rfl, rfl, rfl, rfl, rfl⟩
  | true => exact ⟨rfl, rfl, rfl, rfl, rfl⟩

open Requirement

/-! ## Parts of a drawing -/

def Point.requirement (coordinates : List Float) : Requirement where
  Met := 3 ≤ coordinates.length
  fault := .index (.outside coordinates.length coordinates.length)

theorem Point.decides_vectorFault? {coordinates : List Float} {later : List Requirement}
    {next : Option Fault} (h : Decides later next) :
    Decides (requirement coordinates :: later) ((vectorFault? coordinates).or next) := by
  have hguard : (vectorFault? coordinates).or next =
      if 3 ≤ coordinates.length then next
      else some (.index (.outside coordinates.length coordinates.length)) := by
    by_cases hlength : 3 ≤ coordinates.length
    · simp [vectorFault?, hlength, Nat.not_lt.2 hlength]
    · simp [vectorFault?, hlength, Nat.lt_of_not_le hlength]
  rw [hguard]
  exact Decides.guard fun _ => h

/-- A percentage is required to be a number; each way not to be one has its own fault. -/
def percentRequirements (p : Float) : List Requirement :=
  [⟨Binary64.ofFloat (p * 100.0) ≠ .nan, .percentage .nan⟩,
    ⟨∀ negative, Binary64.ofFloat (p * 100.0) ≠ .infinite negative, .percentage .infinite⟩]

theorem decides_percentFault? (p : Float) :
    Decides (percentRequirements p) ((percentFault? p).map Fault.percentage) := by
  unfold percentRequirements percentFault?
  cases Binary64.ofFloat (p * 100.0) with
  | nan => exact .here (by simp)
  | infinite negative => exact .later (by simp) (.here (by simp))
  | finite negative mantissa exponent => simp [Decides]

theorem forall_met_percentRequirements_iff {p : Float} :
    (∀ r ∈ percentRequirements p, r.Met) ↔ (Binary64.ofFloat (p * 100.0)).IsFinite := by
  simp [percentRequirements, Binary64.isFinite_iff]

namespace Canvas

variable {c : Canvas} {group : List Snapshot}

/-- A label requires a probability for each channel, then a percentage of the total and of each channel
that does not lie below the threshold. -/
def labelRequirements (c : Canvas) (s : Snapshot) : List Requirement :=
  ⟨s.existence.length = c.channelCount,
      .violation (.vectorSize s.identityText s.existence.length c.channelCount)⟩ ::
    (s.total :: s.existence.filter fun p => !decide (p < c.parameters.probabilityThreshold)).flatMap
      percentRequirements

theorem decides_labelFault? (c : Canvas) (s : Snapshot) :
    Decides (c.labelRequirements s) (c.labelFault? s) := by
  refine Decides.guard fun _ => ?_
  -- the total is cut to a percentage before the entries and by the same rule
  rw [percentFault?, List.map_findSome?]
  exact Decides.findSome? fun p _ => decides_percentFault? p

/-- A sighting requires a tracked position; an association requires a configured channel and a
detection as well. -/
def sightingRequirements (c : Canvas) (s : Snapshot) : List Requirement :=
  Point.requirement s.trackerPoint ::
    if s.associated then
      [⟨0 ≤ s.channel ∧ s.channel < c.channelCount,
          .violation (.channelIndex s.channel c.channelCount)⟩,
        Point.requirement s.detectionPoint]
    else []

theorem decides_sightingFault? (c : Canvas) (s : Snapshot) :
    Decides (c.sightingRequirements s) (c.sightingFault? s) := by
  refine Point.decides_vectorFault? ?_
  cases s.associated with
  | false => exact decides_nil
  | true =>
      refine Decides.guard fun _ => ?_
      rw [← Option.or_none (o := Point.vectorFault? s.detectionPoint)]
      exact Point.decides_vectorFault? decides_nil

/-! ## Groups -/

/-- What a drawing requires of a group: a first snapshot with a place and a label, then a sighting of
every snapshot, in the order of the group. -/
def drawRequirements (c : Canvas) : List Snapshot → List Requirement
  | [] => [⟨False, .itemMissing⟩]
  | anchor :: rest =>
      Point.requirement anchor.trackerPoint ::
        (c.labelRequirements anchor ++ (anchor :: rest).flatMap c.sightingRequirements)

theorem decides_drawGroup (c : Canvas) (group : List Snapshot) :
    Decides (c.drawRequirements group) (Outcome.fault? (c.drawGroup group)) := by
  rw [fault?_drawGroup]
  cases group with
  | nil => exact .here id
  | cons anchor rest =>
      exact Point.decides_vectorFault?
        ((decides_labelFault? c anchor).append
          (Decides.findSome? fun s _ => decides_sightingFault? c s))

/-- The groups that can be drawn. -/
structure Drawable (c : Canvas) (group : List Snapshot) : Prop where
  ne_nil : group ≠ []
  trackerPoint : ∀ s ∈ group, 3 ≤ s.trackerPoint.length
  existence : ∀ anchor, group.head? = some anchor → anchor.existence.length = c.channelCount
  total : ∀ anchor, group.head? = some anchor → (Binary64.ofFloat (anchor.total * 100.0)).IsFinite
  entries : ∀ anchor, group.head? = some anchor → ∀ p ∈ anchor.existence,
    ¬ p < c.parameters.probabilityThreshold → (Binary64.ofFloat (p * 100.0)).IsFinite
  channel : ∀ s ∈ group, s.associated = true → 0 ≤ s.channel ∧ s.channel < c.channelCount
  detectionPoint : ∀ s ∈ group, s.associated = true → 3 ≤ s.detectionPoint.length

theorem forall_met_labelRequirements_iff {s : Snapshot} :
    (∀ r ∈ c.labelRequirements s, r.Met) ↔
      s.existence.length = c.channelCount ∧ (Binary64.ofFloat (s.total * 100.0)).IsFinite ∧
        ∀ p ∈ s.existence, ¬ p < c.parameters.probabilityThreshold →
          (Binary64.ofFloat (p * 100.0)).IsFinite := by
  simp only [labelRequirements, List.forall_mem_cons, List.flatMap_cons, List.forall_mem_append,
    forall_met_percentRequirements_iff, List.forall_mem_flatMap, List.mem_filter,
    Bool.not_eq_true', decide_eq_false_iff_not, and_imp]

theorem forall_met_sightingRequirements_iff {s : Snapshot} :
    (∀ r ∈ c.sightingRequirements s, r.Met) ↔
      3 ≤ s.trackerPoint.length ∧ (s.associated = true →
        (0 ≤ s.channel ∧ s.channel < c.channelCount) ∧ 3 ≤ s.detectionPoint.length) := by
  cases h : s.associated with
  | false => simp [sightingRequirements, Point.requirement, h]
  | true => simp [sightingRequirements, Point.requirement, h]

theorem forall_met_drawRequirements_iff :
    (∀ r ∈ c.drawRequirements group, r.Met) ↔ c.Drawable group := by
  cases group with
  | nil =>
      refine ⟨fun h => ?_, fun h => absurd rfl h.ne_nil⟩
      exact (h _ List.mem_cons_self).elim
  | cons anchor rest =>
      rw [drawRequirements, List.forall_mem_cons, List.forall_mem_append,
        forall_met_labelRequirements_iff, List.forall_mem_flatMap]
      simp only [forall_met_sightingRequirements_iff]
      constructor
      · rintro ⟨-, ⟨hlength, htotal, hentries⟩, hsightings⟩
        refine ⟨List.cons_ne_nil _ _, fun s hs => (hsightings s hs).1, ?_, ?_, ?_, ?_, ?_⟩
        · rintro _ ⟨⟩
          exact hlength
        · rintro _ ⟨⟩
          exact htotal
        · rintro _ ⟨⟩
          exact hentries
        · exact fun s hs hassociated => ((hsightings s hs).2 hassociated).1
        · exact fun s hs hassociated => ((hsightings s hs).2 hassociated).2
      · intro h
        -- the place of the label is that of the first sighting
        exact ⟨h.trackerPoint anchor List.mem_cons_self,
          ⟨h.existence anchor rfl, h.total anchor rfl, h.entries anchor rfl⟩,
          fun s hs => ⟨h.trackerPoint s hs, fun hassociated =>
            ⟨h.channel s hs hassociated, h.detectionPoint s hs hassociated⟩⟩⟩

/-! ## What is not looked at -/

theorem drawGroup_relinked (c : Canvas) (group : List Snapshot) (channel : Int)
    (detectionPoint : List Float) :
    c.drawGroup (group.map (Snapshot.relinked channel detectionPoint)) = c.drawGroup group := by
  cases group with
  | nil => rfl
  | cons anchor rest =>
      refine drawGroup_cons_eq_of_alike (.refl c) (anchor.anchorsAlike_relinked channel detectionPoint)
        (anchor.sightedAlike_relinked channel detectionPoint) ?_
      exact List.forall₂_map_right_iff.2
        (List.forall₂_same.2 fun s _ => s.sightedAlike_relinked channel detectionPoint)

/-! ## Drawings that are refused -/

/-- A drawing succeeds exactly for drawable groups, and otherwise reports the first requirement that
the group does not meet.  A negative channel does not count from the end, it is refused; but channel and
detection are not looked at unless something is associated. -/
theorem drawGroup_reports_first_unmet (c : Canvas) (group : List Snapshot) :
    ((∃ scene, c.drawGroup group = .ok scene) ↔ c.Drawable group) ∧
      (∀ fault, c.drawGroup group = .error fault ↔ FirstUnmet (c.drawRequirements group) fault) ∧
      (∀ s ∈ group, s.associated = true → s.channel < 0 →
        ∃ fault, c.drawGroup group = .error fault) ∧
      ∀ channel detectionPoint,
        c.drawGroup (group.map (Snapshot.relinked channel detectionPoint)) = c.drawGroup group := by
  have hdecides := decides_drawGroup c group
  have hdrawable : (∃ scene, c.drawGroup group = .ok scene) ↔ c.Drawable group :=
    hdecides.exists_ok_iff.trans forall_met_drawRequirements_iff
  refine ⟨hdrawable, fun fault => hdecides.eq_error_iff, ?_, drawGroup_relinked c group⟩
  intro s hs hassociated hnegative
  cases hdraw : c.drawGroup group with
  | error fault => exact ⟨fault, rfl⟩
  | ok scene =>
      have hchannel := (hdrawable.1 ⟨scene, hdraw⟩).channel s hs hassociated
      omega

/-- A snapshot that is associated through a channel before the first, with a detection of no size. -/
def strayedSnapshot : Snapshot :=
  { pairSnapshot 1 true with
    channel := -1
    detectionPoint := [] }

/-- Of the two faults of the second snapshot the one of its channel is reported. -/
theorem drawGroup_reports_first_unmet_pair :
    let group := [pairSnapshot 1 false, strayedSnapshot]
    pairCanvas.Drawable [pairSnapshot 1 true, carelessSnapshot] ∧
      (strayedSnapshot ∈ group ∧ strayedSnapshot.associated = true ∧ strayedSnapshot.channel < 0) ∧
      (∃ fault, pairCanvas.drawGroup group = .error fault) ∧
      FirstUnmet (pairCanvas.drawRequirements group) (.violation (.channelIndex (-1) 2)) := by
  intro group
  have hmem : strayedSnapshot ∈ group := List.mem_cons_of_mem _ List.mem_cons_self
  have hreports := drawGroup_reports_first_unmet pairCanvas group
  refine ⟨?_, ⟨hmem, rfl, by decide⟩, hreports.2.2.1 _ hmem rfl (by decide), (hreports.2.1 _).1 rfl⟩
  exact (drawGroup_reports_first_unmet pairCanvas _).1.1 ⟨_, rfl⟩

end Canvas
end TrackOverlay
