import TrackOverlay.Proofs.FirstFault
import TrackOverlay.Proofs.Fitting
import TrackOverlay.Scene.Rendering

/-!
# Drawability — when a drawing succeeds, and which fault ends it

Each operation of a drawing gets its *fault function*: the fault that it ends with, computed from the
data alone and in the order in which the checks are made.  `Canvas.fault?_drawGroup` and
`Canvas.fault?_draw` say that drawings end with exactly these faults.

For snapshots that fit the channels of the canvas all checks but one are void: what remains is a
probability without a percentage, and only the first snapshot of a group has a label to show it
(`Canvas.groupFault?_of_fits`).
-/

namespace TrackOverlay

open Outcome

/-! ## Percentages -/

/-- Why a probability has no percentage: its hundredfold is not a number, or infinite. -/
def percentFault? (p : Float) : Option Binary64.NotFinite :=
  match Binary64.ofFloat (p * 100.0) with
  | .nan => some .nan
  | .infinite _ => some .infinite
  | .finite .. => none

theorem fault?_percent (p : Float) :
    fault? (percent p) = (percentFault? p).map Fault.percentage := by
  unfold percent percentFault?
  cases Binary64.ofFloat (p * 100.0) with
  | nan => rfl
  | infinite negative => rfl
  | finite negative mantissa exponent => rfl

/-! ## Points -/

/-- The fault of a point with too few coordinates. -/
def Point.vectorFault? (coordinates : List Float) : Option Fault :=
  if coordinates.length < 3 then some (.index (.outside coordinates.length coordinates.length))
  else none

theorem Point.fault?_ofVector (raise : Float) (coordinates : List Float) :
    fault? (ofVector raise coordinates) = vectorFault? coordinates := by
  unfold ofVector vectorFault?
  cases hpoint : raised? raise coordinates with
  | none =>
      simp [raised?_eq_none_iff.1 hpoint]
  | some p =>
      have hlength : ¬ coordinates.length < 3 := fun hshort => by
        simp [raised?_eq_none_iff.2 hshort] at hpoint
      simp [hlength]

theorem Point.vectorFault?_of_length_eq {coordinates : List Float} (h : coordinates.length = 3) :
    vectorFault? coordinates = none := by
  simp [vectorFault?, h]

namespace Canvas

variable {c : Canvas}

/-! ## Labels -/

/-- The probabilities that the label of a snapshot shows: the total, then the channels that do not
lie below the threshold. -/
def shownProbabilities (c : Canvas) (s : Snapshot) : List Float :=
  s.total :: s.existence.filter fun p => !decide (p < c.parameters.probabilityThreshold)

/-- Why a label has no percentages: the reason of the first probability that has none. -/
def percentFault? (c : Canvas) (s : Snapshot) : Option Binary64.NotFinite :=
  (c.shownProbabilities s).findSome? TrackOverlay.percentFault?

/-- The fault of a label. -/
def labelFault? (c : Canvas) (s : Snapshot) : Option Fault :=
  if s.existence.length = c.channelCount then (c.percentFault? s).map Fault.percentage
  else some (.violation (.vectorSize s.identityText s.existence.length c.channelCount))

theorem fault?_token (entry : Channel × Float) :
    fault? (token entry) = (TrackOverlay.percentFault? entry.2).map Fault.percentage := by
  rw [token, fault?_bind_pure, fault?_percent]

/-- With a probability per channel, the tokens show exactly the probabilities not below the
threshold. -/
theorem map_snd_shownChannels {s : Snapshot} (h : s.existence.length = c.channelCount) :
    (c.shownChannels s).map Prod.snd =
      s.existence.filter fun p => !decide (p < c.parameters.probabilityThreshold) := by
  have hzip : (c.channels.zip s.existence).map Prod.snd = s.existence :=
    List.map_snd_zip (Nat.le_of_eq h)
  rw [shownChannels, ← hzip, List.filter_map, hzip]
  rfl

theorem fault?_tokens {s : Snapshot} (h : s.existence.length = c.channelCount) :
    fault? ((c.shownChannels s).mapM token) =
      ((s.existence.filter fun p => !decide (p < c.parameters.probabilityThreshold)).findSome?
        TrackOverlay.percentFault?).map Fault.percentage := by
  rw [fault?_mapM, ← map_snd_shownChannels h, List.findSome?_map, List.map_findSome?]
  simp only [fault?_token]
  rfl

theorem fault?_label (c : Canvas) (s : Snapshot) : fault? (c.label s) = c.labelFault? s := by
  by_cases h : s.existence.length = c.channelCount
  · -- the total is printed before the tokens
    simp only [label, labelFault?, h, ne_eq, not_true_eq_false, if_true, if_false]
    rw [fault?_bind fun _ _ => fault?_bind_pure _ _, fault?_percent, fault?_tokens h,
      percentFault?, shownProbabilities, List.findSome?_cons]
    cases TrackOverlay.percentFault? s.total with
    | none => rfl
    | some reason => rfl
  · simp [label, labelFault?, h]

/-! ## Sightings -/

/-- The fault of an associated detection; the channel is checked first. -/
def linkFault? (c : Canvas) (s : Snapshot) : Option Fault :=
  if 0 ≤ s.channel ∧ s.channel < c.channelCount then Point.vectorFault? s.detectionPoint
  else some (.violation (.channelIndex s.channel c.channelCount))

/-- The fault of a sighting; channel and detection matter only if something is associated. -/
def sightingFault? (c : Canvas) (s : Snapshot) : Option Fault :=
  (Point.vectorFault? s.trackerPoint).or (if s.associated then c.linkFault? s else none)

theorem fault?_link (c : Canvas) (s : Snapshot) : fault? (c.link s) = c.linkFault? s := by
  by_cases h : 0 ≤ s.channel ∧ s.channel < c.channelCount
  · simp only [link, linkFault?, h, and_self, if_true]
    rw [fault?_bind_pure, Point.fault?_ofVector]
  · simp [link, linkFault?, h]

theorem fault?_sighting (c : Canvas) (s : Snapshot) :
    fault? (c.sighting s) = c.sightingFault? s := by
  rw [sighting, sightingFault?, ← Point.fault?_ofVector c.parameters.trackHeightOffset]
  refine fault?_bind fun track _ => ?_
  cases s.associated with
  | false => rfl
  | true =>
      rw [if_pos rfl, fault?_bind_pure, fault?_link]
      rfl

/-! ## Groups -/

/-- The fault of a group: its first snapshot must be there, have a place and a label; then every
snapshot must have a sighting. -/
def groupFault? (c : Canvas) : List Snapshot → Option Fault
  | [] => some .itemMissing
  | anchor :: rest =>
      (Point.vectorFault? anchor.trackerPoint).or
        ((c.labelFault? anchor).or ((anchor :: rest).findSome? c.sightingFault?))

theorem fault?_drawGroup (c : Canvas) (group : List Snapshot) :
    fault? (c.drawGroup group) = c.groupFault? group := by
  cases group with
  | nil => rfl
  | cons anchor rest =>
      have hsightings : fault? ((anchor :: rest).mapM c.sighting) =
          (anchor :: rest).findSome? c.sightingFault? := by
        simp only [fault?_mapM, fault?_sighting]
      rw [drawGroup, groupFault?, ← Point.fault?_ofVector c.parameters.textHeightOffset,
        ← fault?_label, ← hsightings]
      exact fault?_bind fun place _ => fault?_bind fun text _ => fault?_bind_pure _ _

/-- Drawing ends with the fault of the first group that has one. -/
theorem fault?_draw (c : Canvas) (groups : List (List Snapshot)) :
    fault? (c.draw groups) =
      (groups.filter fun group => !group.isEmpty).findSome? c.groupFault? := by
  rw [draw, fault?_bind_pure, fault?_mapM]
  simp only [fault?_drawGroup]

@[simp] theorem draw_nil (c : Canvas) : c.draw [] = .ok [] := rfl

/-! ## Fitting snapshots -/

theorem sightingFault?_of_fits {s : Snapshot} (h : s.Fits c.channelCount) :
    c.sightingFault? s = none := by
  have htrack := Point.vectorFault?_of_length_eq h.trackerPoint_length
  have hdetection := Point.vectorFault?_of_length_eq h.detectionPoint_length
  cases hassociated : s.associated with
  | false => simp [sightingFault?, htrack, hassociated]
  | true =>
      simp [sightingFault?, linkFault?, htrack, hdetection, hassociated, h.channel_mem hassociated]

theorem labelFault?_of_fits {s : Snapshot} (h : s.Fits c.channelCount) :
    c.labelFault? s = (c.percentFault? s).map Fault.percentage :=
  if_pos (Int.ofNat.inj h.existence_length)

/-- A group of fitting snapshots fails only by a percentage on the label of its first snapshot. -/
theorem groupFault?_of_fits {anchor : Snapshot} {rest : List Snapshot}
    (h : ∀ s ∈ anchor :: rest, s.Fits c.channelCount) :
    c.groupFault? (anchor :: rest) = (c.percentFault? anchor).map Fault.percentage := by
  have hanchor := h anchor List.mem_cons_self
  have hsightings : (anchor :: rest).findSome? c.sightingFault? = none :=
    List.findSome?_eq_none_iff.2 fun s hs => sightingFault?_of_fits (h s hs)
  rw [groupFault?, Point.vectorFault?_of_length_eq hanchor.trackerPoint_length,
    labelFault?_of_fits hanchor, hsightings, Option.none_or, Option.or_none]

/-- Drawing groups of fitting snapshots ends with the first label that lacks a percentage. -/
theorem fault?_draw_of_fits {groups : List (List Snapshot)}
    (h : ∀ group ∈ groups, ∀ s ∈ group, s.Fits c.channelCount) :
    fault? (c.draw groups) =
      ((groups.filterMap List.head?).findSome? c.percentFault?).map Fault.percentage := by
  rw [fault?_draw]
  induction groups with
  | nil => rfl
  | cons group groups ih =>
      have hrest := ih fun later hlater => h later (List.mem_cons_of_mem _ hlater)
      cases group with
      | nil => exact hrest
      | cons anchor rest =>
          have hgroup := groupFault?_of_fits (h (anchor :: rest) List.mem_cons_self)
          cases hanchor : c.percentFault? anchor with
          | none => simpa [hgroup, hanchor] using hrest
          | some reason => simp [hgroup, hanchor]

end Canvas
end TrackOverlay
