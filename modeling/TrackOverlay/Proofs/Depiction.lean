import Mathlib.Data.Fintype.Basic
import TrackOverlay.Proofs.DrawingLoop
import TrackOverlay.Proofs.MarkerKeys

/-!
# Depiction — which points the markers of a block have

A block is composed from sightings.  This file says what its markers show of the snapshots
themselves: the box marker of a channel has the raised detections of the snapshots that came through
the channel, its line marker joins them to the raised tracks of the same snapshots, and the track
boxes have the raised tracks of all snapshots, everything in the order of the group
(`Canvas.Sighted.detections`, `Canvas.Sighted.ends`, `Canvas.Sighted.tracks`).

`Canvas.drawGroup_depicts` puts this together for a drawn group, with the actions and the colors of
its markers.  The group may as well be drawn in one pass over its snapshots, as in `DrawingLoop`.
-/

namespace TrackOverlay

/-! ## Colors -/

namespace Color

theorem palette_injective : ∀ i j : Fin 16, palette.get i = palette.get j → i = j := by
  decide

theorem hue_eq_iff {i j : Nat} : hue i = hue j ↔ i % 16 = j % 16 := by
  constructor
  · intro h
    have hindex := Fin.val_eq_of_eq (palette_injective _ _ h)
    simp only at hindex
    omega
  · intro h
    have hindex : (i : Int) % 16 = (j : Int) % 16 := by omega
    simp only [hue, hindex]

/-- Channels have one color exactly if their positions differ by a multiple of the palette. -/
theorem channel_eq_iff {i j : Nat} : channel i = channel j ↔ i % 16 = j % 16 := by
  rw [← hue_eq_iff]
  constructor
  · intro h
    -- the parts of the colors are those of the hues, and the opacity is the same anyway
    rcases hi : hue i with ⟨red, green, blue⟩
    rcases hj : hue j with ⟨red', green', blue'⟩
    simpa [channel, hi, hj] using h
  · intro h
    simp [channel, h]

end Color

/-! ## Raised points -/

/-- A point that lies above the place given by the first three of some coordinates. -/
def Point.Above (raise : Float) (coordinates : List Float) (p : Point) : Prop :=
  ∃ x y z rest, coordinates = x :: y :: z :: rest ∧ p = ⟨x, y, z + raise⟩

theorem Point.above_of_ofVector {raise : Float} {coordinates : List Float} {p : Point}
    (h : ofVector raise coordinates = .ok p) : p.Above raise coordinates := by
  match coordinates with
  | [] => simp [ofVector, raised?] at h
  | [_] => simp [ofVector, raised?] at h
  | [_, _] => simp [ofVector, raised?] at h
  | x :: y :: z :: rest => exact ⟨x, y, z, rest, rfl, (Except.ok.inj h).symm⟩

theorem Marker.Action.eq_of_delete_iff {a b : Action} (h : a = .delete ↔ b = .delete) : a = b := by
  cases a with
  | add =>
      cases b with
      | add => rfl
      | delete => simp at h
  | delete => exact (h.1 rfl).symm

/-! ## Points of sightings -/

/-- The two ends of the line of a sighting, if its detection came through the given channel. -/
def Sighting.ends? (channel : Nat) (g : Sighting) : Option (Point × Point) :=
  (g.detectionOf? channel).map fun detection => (g.track, detection)

/-- Lines are drawn from end to end, one sighting after the other. -/
theorem Sighting.flatMap_lineOf (sightings : List Sighting) (index : Nat) :
    sightings.flatMap (lineOf index) =
      (sightings.filterMap (ends? index)).flatMap fun ends => [ends.1, ends.2] := by
  induction sightings with
  | nil => rfl
  | cons g rest ih =>
      -- a sighting that came through another channel adds neither a line nor ends
      cases hdetection : g.detectionOf? index with
      | none => simp [lineOf, ends?, hdetection, ih]
      | some detection => simp [lineOf, ends?, hdetection, ih]

theorem Sighting.map_snd_ends (sightings : List Sighting) (index : Nat) :
    (sightings.filterMap (ends? index)).map Prod.snd =
      sightings.filterMap (detectionOf? index) := by
  simp [ends?, List.map_filterMap, Function.comp_def]

/-- Of a list of pairs that is written out, the odd places are the second members. -/
theorem getElem?_flatMap_odd (pairs : List (Point × Point)) (i : Nat) :
    (pairs.flatMap fun ends => [ends.1, ends.2])[2 * i + 1]? = (pairs.map Prod.snd)[i]? := by
  induction pairs generalizing i with
  | nil => rfl
  | cons ends rest ih =>
      cases i with
      | zero => rfl
      | succ i => simpa [Nat.mul_add] using ih i

namespace Canvas

variable {c : Canvas} {s anchor : Snapshot} {group : List Snapshot} {g : Sighting}
  {sightings : List Sighting} {place : Point} {text : String} {index : Nat} {scene : Scene}

theorem track_above (h : c.sighting s = .ok g) :
    g.track.Above c.parameters.trackHeightOffset s.trackerPoint :=
  Point.above_of_ofVector (sighting_eq_ok_iff.1 h).1

/-- The detection of a sighting is that of its snapshot, for the channel that it came through. -/
theorem detectionOf?_of_sighting (h : c.sighting s = .ok g) (index : Nat) :
    (s.through index = false ∧ g.detectionOf? index = none) ∨
      (s.through index = true ∧ ∃ p, g.detectionOf? index = some p ∧
        p.Above c.detectionHeight s.detectionPoint) := by
  have hsome := isSome_detectionOf? h index
  cases hthrough : s.through index with
  | false => exact .inl ⟨rfl, by simpa [hthrough] using hsome⟩
  | true =>
      have hassociated : s.associated = true := (Bool.and_eq_true_iff.1 hthrough).1
      rcases (sighting_eq_ok_iff.1 h).2.2 hassociated with ⟨link, hlink, hg⟩
      rcases link_eq_ok_iff.1 hlink with ⟨-, -, hdetection⟩
      rcases Option.isSome_iff_exists.1 (hsome.trans hthrough) with ⟨p, hp⟩
      -- there is a detection, and a link has only one
      have hlinked : link.detection = p := by
        have hboth : link.channel = index ∧ link.detection = p := by
          simpa [Sighting.detectionOf?, hg] using hp
        exact hboth.2
      exact .inr ⟨rfl, p, hp, hlinked ▸ Point.above_of_ofVector hdetection⟩

theorem Sighted.tracks (h : c.Sighted group sightings) :
    List.Forall₂ (fun s p => Point.Above c.parameters.trackHeightOffset s.trackerPoint p) group
      (sightings.map Sighting.track) := by
  induction h with
  | nil => exact .nil
  | cons hs _ ih => exact .cons (track_above hs) ih

/-- The lines of a channel lead from the tracks of the snapshots that came through it to their
detections. -/
theorem Sighted.ends (h : c.Sighted group sightings) (index : Nat) :
    List.Forall₂
      (fun s ends => Point.Above c.parameters.trackHeightOffset s.trackerPoint (Prod.fst ends) ∧
        Point.Above c.detectionHeight s.detectionPoint ends.2)
      (group.filter (Snapshot.through index)) (sightings.filterMap (Sighting.ends? index)) := by
  induction h with
  | nil => exact .nil
  | cons hs _ ih =>
      -- the snapshot is kept exactly if its sighting has ends
      rcases detectionOf?_of_sighting hs index with ⟨hother, hnone⟩ | ⟨hthrough, p, hp, habove⟩
      · simpa [Sighting.ends?, hother, hnone] using ih
      · simpa [Sighting.ends?, hthrough, hp] using ⟨⟨track_above hs, habove⟩, ih⟩

theorem Sighted.detections (h : c.Sighted group sightings) (index : Nat) :
    List.Forall₂ (fun s p => Point.Above c.detectionHeight s.detectionPoint p)
      (group.filter (Snapshot.through index))
      (sightings.filterMap (Sighting.detectionOf? index)) := by
  rw [← Sighting.map_snd_ends, List.forall₂_map_right_iff]
  exact (h.ends index).imp fun _ _ habove => habove.2

/-- Sightings are coasting if nothing in their group is associated. -/
theorem Sighted.coasting_eq (h : c.Sighted group sightings) :
    coasting sightings = !group.any Snapshot.associated := by
  induction h with
  | nil => rfl
  | @cons s g _ _ hs _ ih =>
      have hlink : g.link.isNone = !s.associated := by
        rcases sighting_eq_ok_iff.1 hs with ⟨-, hnone, hsome⟩
        cases hassociated : s.associated with
        | false => simp [hnone hassociated]
        | true =>
            rcases hsome hassociated with ⟨link, -, hg⟩
            simp [hg]
      rw [List.any_cons, Bool.not_or, ← hlink, ← ih]
      rfl

/-! ## Markers of a drawn group -/

/-- What the two markers of a channel show of a group.  The lines join the track of each snapshot that
came through the channel to its detection in the boxes. -/
structure ShowsChannel (c : Canvas) (group : List Snapshot) (channel : Channel) (index : Nat)
    (boxes lines : Marker) : Prop where
  boxes_kind : boxes.space = detectionBoxSpace channel ∧ boxes.shape = .cubeList
  lines_kind : lines.space = lineSpace channel ∧ lines.shape = .lineList
  boxes_points : List.Forall₂
    (fun s p => Point.Above (c.parameters.trackHeightOffset + c.parameters.assignHeightOffset)
      s.detectionPoint p)
    (group.filter fun s => s.associated && decide (s.channel = (index : Int))) boxes.points
  lines_points : ∃ pairs, lines.points = pairs.flatMap (fun ends => [Prod.fst ends, ends.2]) ∧
    pairs.map Prod.snd = boxes.points ∧
    List.Forall₂
      (fun s ends => Point.Above c.parameters.trackHeightOffset s.trackerPoint (Prod.fst ends))
      (group.filter fun s => s.associated && decide (s.channel = (index : Int))) pairs
  lines_end : ∀ i, lines.points[2 * i + 1]? = boxes.points[i]?
  action_eq : boxes.action = lines.action

theorem showsChannel (h : c.Sighted group sightings) (anchor : Snapshot) (channel : Channel)
    (index : Nat) :
    ShowsChannel c group channel index (c.detectionBoxes anchor sightings channel index)
      (c.associationLines anchor sightings channel index) where
  boxes_kind := ⟨rfl, rfl⟩
  lines_kind := ⟨rfl, rfl⟩
  boxes_points := h.detections index
  lines_points := ⟨_, Sighting.flatMap_lineOf sightings index,
    Sighting.map_snd_ends sightings index, (h.ends index).imp fun _ _ habove => habove.1⟩
  lines_end := by
    intro i
    calc (c.associationLines anchor sightings channel index).points[2 * i + 1]?
        = ((sightings.filterMap (Sighting.ends? index)).flatMap fun ends =>
            [ends.1, ends.2])[2 * i + 1]? := by
          rw [← Sighting.flatMap_lineOf]
          rfl
      _ = (sightings.filterMap (Sighting.detectionOf? index))[i]? := by
          rw [getElem?_flatMap_odd, Sighting.map_snd_ends]
      _ = (c.detectionBoxes anchor sightings channel index).points[i]? := rfl
  action_eq := by
    have hboxes : (c.detectionBoxes anchor sightings channel index).action = .delete ↔
        ∀ s ∈ group, s.through index = false := detectionBoxes_delete_iff h
    have hlines : (c.associationLines anchor sightings channel index).action = .delete ↔
        ∀ s ∈ group, s.through index = false := associationLines_delete_iff h
    exact Marker.Action.eq_of_delete_iff (hboxes.trans hlines.symm)

/-- A marker of a channel deletes exactly if it has no points. -/
theorem delete_iff_of_mem_channels {m : Marker}
    (hm : m ∈ c.channels.mapIdx (fun index channel =>
        c.detectionBoxes anchor sightings channel index) ++
      c.channels.mapIdx fun index channel => c.associationLines anchor sightings channel index) :
    m.action = .delete ↔ m.points = [] := by
  rcases List.mem_append.1 hm with hboxes | hlines
  · rcases mem_mapIdx_channels_iff.1 hboxes with ⟨index, channel, -, rfl⟩
    exact channelAction_eq_delete_iff.trans List.length_eq_zero_iff
  · rcases mem_mapIdx_channels_iff.1 hlines with ⟨index, channel, -, rfl⟩
    exact channelAction_eq_delete_iff.trans List.length_eq_zero_iff

/-- A marker of a channel has the color of its position. -/
theorem color_of_channels {m : Marker} {i : Nat}
    (hm : (c.channels.mapIdx fun index channel =>
        c.detectionBoxes anchor sightings channel index)[i]? = some m ∨
      (c.channels.mapIdx fun index channel =>
        c.associationLines anchor sightings channel index)[i]? = some m) :
    m.color = Color.channel i := by
  simp only [List.getElem?_mapIdx, Option.map_eq_some_iff] at hm
  rcases hm with ⟨channel, -, rfl⟩ | ⟨channel, -, rfl⟩
  · rfl
  · rfl

/-- A drawn group is shown by a box marker and a line marker for each channel, a label and track
boxes, in this order.  Markers of channels delete if they have no points and repeat their colors every
sixteen channels; label and track boxes always add, and are grey if nothing is associated. -/
theorem drawGroup_depicts (h : c.drawGroup group = .ok scene) :
    ∃ boxes lines label tracks, scene = boxes ++ lines ++ [label, tracks] ∧
      (boxes.length = c.channelCount ∧ lines.length = c.channelCount) ∧
      (∀ index channel, c.channels[index]? = some channel →
        ∃ b l, boxes[index]? = some b ∧ lines[index]? = some l ∧
          ShowsChannel c group channel index b l) ∧
      (label.space = labelSpace ∧ label.shape = .facingText ∧ label.action = .add) ∧
      (tracks.space = trackBoxSpace ∧ tracks.shape = .cubeList ∧ tracks.action = .add) ∧
      List.Forall₂ (fun s p => Point.Above c.parameters.trackHeightOffset s.trackerPoint p) group
        tracks.points ∧
      (∀ m ∈ boxes ++ lines, m.action = .delete ↔ m.points = []) ∧
      (∀ (i j : Nat) (a b : Marker), (boxes[i]? = some a ∨ lines[i]? = some a) →
        (boxes[j]? = some b ∨ lines[j]? = some b) → (a.color = b.color ↔ i % 16 = j % 16)) ∧
      label.color = (if group.any Snapshot.associated then Color.label else .coastingLabel) ∧
      tracks.color =
        (if group.any Snapshot.associated then Color.trackBox else .coastingTrackBox) ∧
      c.drawGroupByLoop group = .ok scene := by
  rcases exists_anchor_of_drawGroup h with ⟨anchor, rest, rfl⟩
  rcases drawGroup_eq_ok_iff.1 h with ⟨place, text, sightings, -, -, hsighted, rfl⟩
  refine ⟨_, _, _, _, rfl, ⟨List.length_mapIdx, List.length_mapIdx⟩, ?_, ⟨rfl, rfl, rfl⟩,
    ⟨rfl, rfl, rfl⟩, hsighted.tracks, ?_, ?_, ?_, ?_, (drawGroupByLoop_eq c _).trans h⟩
  · intro index channel hchannel
    refine ⟨_, _, ?_, ?_, showsChannel hsighted anchor channel index⟩
    · simp [hchannel]
    · simp [hchannel]
  · intro m hm
    exact delete_iff_of_mem_channels hm
  · intro i j a b ha hb
    -- a box marker and a line marker at one place have the same color
    rw [color_of_channels ha, color_of_channels hb]
    exact Color.channel_eq_iff
  · simp only [labelMarker, anchored, hsighted.coasting_eq]
    cases (anchor :: rest).any Snapshot.associated with
    | false => rfl
    | true => rfl
  · simp only [trackBoxes, anchored, hsighted.coasting_eq]
    cases (anchor :: rest).any Snapshot.associated with
    | false => rfl
    | true => rfl

/-- A snapshot that is associated through the second of two channels. -/
def secondSnapshot (height : Float) : Snapshot :=
  { pairSnapshot 1 true with
    channel := 1
    trackerPoint := [1.0, 2.0, height]
    detectionPoint := [1.5, 2.0, height] }

/-- Something came through the second channel, then nothing, then something through it again: the
second channel has two boxes, the first deletes. -/
theorem drawGroup_depicts_pair :
    let group := [secondSnapshot 0.0, pairSnapshot 1 false, secondSnapshot 0.5]
    ∃ scene boxes lines label tracks, pairCanvas.drawGroup group = .ok scene ∧
      scene = boxes ++ lines ++ [label, tracks] ∧
      scene.map Marker.action = [.delete, .add, .delete, .add, .add, .add] ∧
      (∃ b l, boxes[1]? = some b ∧ lines[1]? = some l ∧ b.color = l.color ∧
        List.Forall₂ (fun s p => Point.Above (1.0 + 0.6) s.detectionPoint p)
          [secondSnapshot 0.0, secondSnapshot 0.5] b.points ∧
        ∀ i, l.points[2 * i + 1]? = b.points[i]?) ∧
      List.Forall₂ (fun s p => Point.Above 1.0 s.trackerPoint p) group tracks.points := by
  intro group
  have hdraw : pairCanvas.drawGroup group = .ok _ := rfl
  rcases drawGroup_depicts hdraw with
    ⟨boxes, lines, label, tracks, hscene, -, hchannels, -, -, htracks, -, hcolors, -, -, -⟩
  rcases hchannels 1 _ rfl with ⟨b, l, hb, hl, hshows⟩
  have hcolor : b.color = l.color := (hcolors 1 1 b l (.inl hb) (.inr hl)).2 rfl
  exact ⟨_, boxes, lines, label, tracks, hdraw, hscene, by decide,
    ⟨b, l, hb, hl, hcolor, hshows.boxes_points, hshows.lines_end⟩, htracks⟩

end Canvas
end TrackOverlay
