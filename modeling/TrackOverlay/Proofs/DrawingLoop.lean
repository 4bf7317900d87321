import TrackOverlay.Proofs.Drawing

/-!
# DrawingLoop — drawing as one pass over the snapshots

A block can also be drawn without sighting all snapshots first: from markers without points, by a loop
that adds the points of one snapshot after the other and notes whether anything was associated.  Then
channel markers that are left without points are turned into deletions, and an object without
associations is grayed out.  A scene is drawn by a loop over the groups that passes over empty ones.

This file defines

* `Sketch` — the markers of a block while they are drawn, and `Canvas.addSnapshot`, one round of the loop;
* `Canvas.drawGroupByLoop` and `Canvas.drawByLoop` — drawing as loops.

What a sketch shows after some rounds are the sightings of the snapshots so far
(`Canvas.foldlM_addSnapshot`), so both ways of drawing end alike, with the same markers or the same fault
(`Canvas.drawGroupByLoop_eq`, `Canvas.drawByLoop_eq`).
-/

namespace TrackOverlay

/-- The marker with further points behind its own. -/
def Marker.extend (m : Marker) (points : List Point) : Marker := { m with points := m.points ++ points }

/-- A channel's marker once its points are complete: without any it deletes what was drawn before. -/
def Marker.settled (m : Marker) : Marker := if m.points.isEmpty then { m with action := .delete } else m

/-- The markers of a block while they are drawn, and whether anything was associated so far. -/
structure Sketch where
  tracks : Marker
  boxes : List Marker
  lines : List Marker
  associated : Bool

namespace Canvas

variable {c : Canvas} {anchor s : Snapshot} {g : Sighting} {sightings : List Sighting}

/-! ## Drawing by loops -/

/-- The block of an anchor before its first snapshot is drawn. -/
def blankSketch (c : Canvas) (anchor : Snapshot) : Sketch where
  tracks := c.anchored anchor trackBoxSpace .cubeList (Point.cube c.parameters.trackBoxScale) .trackBox []
  boxes := c.channels.mapIdx fun index channel =>
    c.anchored anchor (detectionBoxSpace channel) .cubeList (Point.cube c.parameters.detectBoxScale)
      (Color.channel index) []
  lines := c.channels.mapIdx fun index channel =>
    c.anchored anchor (lineSpace channel) .lineList ⟨c.parameters.lineWidth, 0.0, 0.0⟩
      (Color.channel index) []
  associated := false

/-- One round of the loop: the track of a snapshot, and its detection at the position of its channel. -/
def addSnapshot (c : Canvas) (sketch : Sketch) (s : Snapshot) : Except Fault Sketch := do
  let track ← Point.ofVector c.parameters.trackHeightOffset s.trackerPoint
  let tracked := { sketch with tracks := sketch.tracks.extend [track] }
  if s.associated then
    if 0 ≤ s.channel ∧ s.channel < c.channelCount then
      let detection ← Point.ofVector c.detectionHeight s.detectionPoint
      pure
        { tracked with
          boxes := sketch.boxes.modify s.channel.toNat fun m => m.extend [detection]
          lines := sketch.lines.modify s.channel.toNat fun m => m.extend [track, detection]
          associated := true }
    else .error (.violation (.channelIndex s.channel c.channelCount))
  else pure tracked

/-- The markers of a block after the loop. -/
def finished (c : Canvas) (anchor : Snapshot) (place : Point) (text : String) (sketch : Sketch) :
    Scene :=
  let label := c.anchored anchor labelSpace .facingText ⟨0.0, 0.0, c.parameters.textScale⟩ .label []
  let label := { label with position := place, text := text }
  (sketch.boxes ++ sketch.lines).map Marker.settled ++
    if sketch.associated then [label, sketch.tracks]
    else [{ label with color := .coastingLabel }, { sketch.tracks with color := .coastingTrackBox }]

def drawGroupByLoop (c : Canvas) : List Snapshot → Except Fault Scene
  | [] => .error .itemMissing
  | anchor :: rest => do
      let place ← Point.ofVector c.parameters.textHeightOffset anchor.trackerPoint
      let text ← c.label anchor
      let sketch ← (anchor :: rest).foldlM c.addSnapshot (c.blankSketch anchor)
      pure (c.finished anchor place text sketch)

/-- One round of the loop over the groups, which passes over empty ones. -/
def addGroup (c : Canvas) (scene : Scene) (group : List Snapshot) : Except Fault Scene :=
  if group.isEmpty then pure scene
  else do
    let block ← c.drawGroupByLoop group
    pure (scene ++ block)

def drawByLoop (c : Canvas) (groups : List (List Snapshot)) : Except Fault Scene :=
  groups.foldlM c.addGroup Scene.empty

/-! ## Sketches of sightings -/

/-- The sketch that shows some sightings. -/
def sketch (c : Canvas) (anchor : Snapshot) (sightings : List Sighting) : Sketch where
  tracks := (c.blankSketch anchor).tracks.extend (sightings.map Sighting.track)
  boxes := c.channels.mapIdx fun index channel =>
    c.anchored anchor (detectionBoxSpace channel) .cubeList (Point.cube c.parameters.detectBoxScale)
      (Color.channel index) (sightings.filterMap (Sighting.detectionOf? index))
  lines := c.channels.mapIdx fun index channel =>
    c.anchored anchor (lineSpace channel) .lineList ⟨c.parameters.lineWidth, 0.0, 0.0⟩
      (Color.channel index) (sightings.flatMap (Sighting.lineOf index))
  associated := !coasting sightings

/-- A change of the marker at one position, seen from every position. -/
theorem modify_mapIdx {α β : Type} (f : Nat → α → β) (g : β → β) (items : List α) (k : Nat) :
    (items.mapIdx f).modify k g =
      items.mapIdx fun i a => if i = k then g (f i a) else f i a := by
  apply List.ext_getElem?
  intro i
  rw [List.getElem?_modify, List.getElem?_mapIdx, List.getElem?_mapIdx]
  cases items[i]? with
  | none => simp
  | some a =>
      by_cases hi : k = i
      · simp [hi]
      · simp [hi, Ne.symm hi]

/-- A round without an association adds the track alone. -/
theorem sketch_concat_unlinked (track : Point) :
    c.sketch anchor (sightings ++ [⟨track, none⟩]) =
      { c.sketch anchor sightings with
        tracks := (c.sketch anchor sightings).tracks.extend [track] } := by
  have hnone (index : Nat) : Sighting.detectionOf? index ⟨track, none⟩ = none := rfl
  simp [sketch, Marker.extend, Sighting.lineOf, coasting, List.filterMap_append, hnone]

/-- A round with an association adds to the markers of its channel as well. -/
theorem sketch_concat_linked (track : Point) (link : Link) :
    c.sketch anchor (sightings ++ [⟨track, some link⟩]) =
      { tracks := (c.sketch anchor sightings).tracks.extend [track]
        boxes := (c.sketch anchor sightings).boxes.modify link.channel fun m => m.extend [link.detection]
        lines := (c.sketch anchor sightings).lines.modify link.channel fun m =>
          m.extend [track, link.detection]
        associated := true } := by
  have hdetection (index : Nat) : Sighting.detectionOf? index ⟨track, some link⟩ =
      if index = link.channel then some link.detection else none := by
    simp [Sighting.detectionOf?, eq_comm]
  simp only [sketch, modify_mapIdx, Sketch.mk.injEq]
  refine ⟨?_, ?_, ?_, ?_⟩
  · simp [Marker.extend]
  · congr 1
    funext index channel
    by_cases hindex : index = link.channel
    · simp [hdetection, hindex, Marker.extend, anchored]
    · simp [hdetection, hindex]
  · congr 1
    funext index channel
    by_cases hindex : index = link.channel
    · simp [Sighting.lineOf, hdetection, hindex, Marker.extend, anchored]
    · simp [Sighting.lineOf, hdetection, hindex]
  · simp [coasting]

/-- One round of the loop draws the sighting of its snapshot. -/
theorem addSnapshot_sketch (c : Canvas) (anchor : Snapshot) (sightings : List Sighting) (s : Snapshot) :
    c.addSnapshot (c.sketch anchor sightings) s =
      (c.sighting s).map fun g => c.sketch anchor (sightings ++ [g]) := by
  unfold addSnapshot sighting
  cases Point.ofVector c.parameters.trackHeightOffset s.trackerPoint with
  | error fault => rfl
  | ok track =>
      cases hassociated : s.associated with
      | false => exact congrArg Except.ok (sketch_concat_unlinked track).symm
      | true =>
          by_cases hchannel : 0 ≤ s.channel ∧ s.channel < c.channelCount
          · cases hdetection : Point.ofVector c.detectionHeight s.detectionPoint with
            | error fault => simp [link, hchannel, hdetection, bind, Except.bind, Except.map]
            | ok detection =>
                simp only [link, hchannel, hdetection, and_self, if_true]
                exact congrArg Except.ok (sketch_concat_linked track ⟨s.channel.toNat, detection⟩).symm
          · simp [link, hchannel, bind, Except.bind, Except.map]

/-- From any sketch the loop draws the sightings of the snapshots that are left, or ends with the fault of
the first that has none. -/
theorem foldlM_addSnapshot (c : Canvas) (anchor : Snapshot) (sightings : List Sighting)
    (group : List Snapshot) :
    group.foldlM c.addSnapshot (c.sketch anchor sightings) =
      (group.mapM c.sighting).map fun more => c.sketch anchor (sightings ++ more) := by
  induction group generalizing sightings with
  | nil =>
      rw [List.foldlM_nil, List.mapM_nil]
      exact congrArg (fun shown => Except.ok (c.sketch anchor shown)) (List.append_nil sightings).symm
  | cons s rest ih =>
      rw [List.foldlM_cons, List.mapM_cons, addSnapshot_sketch]
      cases c.sighting s with
      | error fault => rfl
      | ok g =>
          change rest.foldlM c.addSnapshot (c.sketch anchor (sightings ++ [g])) = _
          rw [ih]
          cases rest.mapM c.sighting with
          | error fault => rfl
          | ok more =>
              have hshown : sightings ++ [g] ++ more = sightings ++ g :: more := List.append_assoc _ _ _
              exact congrArg (fun shown => Except.ok (c.sketch anchor shown)) hshown

/-! ## Blocks -/

/-- A marker that adds by default is left with the action of a channel's marker. -/
theorem settled_eq {m : Marker} (h : m.action = .add) :
    m.settled = { m with action := channelAction m.points } := by
  cases hempty : m.points.isEmpty with
  | true => simp [Marker.settled, channelAction, hempty]
  | false => simp [Marker.settled, channelAction, hempty, ← h]

theorem map_settled_mapIdx {f g : Nat → Channel → Marker}
    (h : ∀ index channel, (f index channel).settled = g index channel) (channels : List Channel) :
    (channels.mapIdx f).map Marker.settled = channels.mapIdx g := by
  apply List.ext_getElem?
  intro index
  rw [List.getElem?_map, List.getElem?_mapIdx, List.getElem?_mapIdx, Option.map_map]
  exact congrArg (fun change => channels[index]?.map change) (funext (h index))

/-- The sketch of all sightings ends as their block. -/
theorem finished_sketch (c : Canvas) (anchor : Snapshot) (place : Point) (text : String)
    (sightings : List Sighting) :
    c.finished anchor place text (c.sketch anchor sightings) =
      c.block anchor place text sightings := by
  have hboxes : (c.sketch anchor sightings).boxes.map Marker.settled =
      c.channels.mapIdx fun index channel => c.detectionBoxes anchor sightings channel index :=
    map_settled_mapIdx (fun _ _ => settled_eq rfl) c.channels
  have hlines : (c.sketch anchor sightings).lines.map Marker.settled =
      c.channels.mapIdx fun index channel => c.associationLines anchor sightings channel index :=
    map_settled_mapIdx (fun _ _ => settled_eq rfl) c.channels
  rw [finished, block, List.map_append, hboxes, hlines]
  congr 1
  cases hcoasting : coasting sightings with
  | true => simp [sketch, hcoasting, labelMarker, trackBoxes, blankSketch, anchored, Marker.extend]
  | false => simp [sketch, hcoasting, labelMarker, trackBoxes, blankSketch, anchored, Marker.extend]

/-! ## Scenes -/

theorem drawGroupByLoop_eq (c : Canvas) (group : List Snapshot) :
    c.drawGroupByLoop group = c.drawGroup group := by
  cases group with
  | nil => rfl
  | cons anchor rest =>
      have hloop : (anchor :: rest).foldlM c.addSnapshot (c.blankSketch anchor) =
          ((anchor :: rest).mapM c.sighting).map (c.sketch anchor) :=
        foldlM_addSnapshot c anchor [] (anchor :: rest)
      simp only [drawGroupByLoop, drawGroup, hloop]
      congr 1
      funext place
      congr 1
      funext text
      cases (anchor :: rest).mapM c.sighting with
      | error fault => rfl
      | ok sightings => exact congrArg Except.ok (finished_sketch c anchor place text sightings)

/-- From any scene the loop puts the drawing of the groups that are left behind it. -/
theorem foldlM_addGroup (c : Canvas) (scene : Scene) (groups : List (List Snapshot)) :
    groups.foldlM c.addGroup scene = (c.draw groups).map (scene ++ ·) := by
  induction groups generalizing scene with
  | nil => exact congrArg Except.ok (List.append_nil scene).symm
  | cons group rest ih =>
      rw [List.foldlM_cons, addGroup, drawGroupByLoop_eq]
      cases hempty : group.isEmpty with
      | true =>
          have hskip : c.draw (group :: rest) = c.draw rest := by simp [draw, hempty]
          rw [hskip]
          exact ih scene
      | false =>
          have hdraw : c.draw (group :: rest) = (do
              let block ← c.drawGroup group
              let later ← c.draw rest
              pure (block ++ later)) := by
            simp [draw, hempty]
          rw [hdraw]
          cases c.drawGroup group with
          | error fault => rfl
          | ok block =>
              change rest.foldlM c.addGroup (scene ++ block) = _
              rw [ih]
              cases c.draw rest with
              | error fault => rfl
              | ok later => exact congrArg Except.ok (List.append_assoc scene block later)

theorem drawByLoop_eq (c : Canvas) (groups : List (List Snapshot)) :
    c.drawByLoop groups = c.draw groups := by
  rw [drawByLoop, foldlM_addGroup]
  cases c.draw groups with
  | error fault => rfl
  | ok scene => rfl

end Canvas
end TrackOverlay
