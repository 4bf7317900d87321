import TrackOverlay.Identity.MarkerId
import TrackOverlay.Scene.Label
import TrackOverlay.Scene.Marker

/-!
# Rendering — groups of snapshots drawn as markers

The snapshots of one object are drawn as one block of markers: a box marker per channel with the
associated detections, a line marker per channel that joins them to the tracked positions, a label,
and the track boxes.  The first snapshot of the group anchors the block; it gives the label, the
time and the number of every marker.

Drawing has two steps.  Each snapshot is first sighted: its points are raised and its channel is
checked, and anything unusable ends the drawing.  The markers are then composed from the
sightings, which cannot fail.
-/

namespace TrackOverlay

/-! ## Sightings -/

/-- An associated detection: its channel and its raised position. -/
structure Link where
  channel : Nat
  detection : Point
  deriving DecidableEq, Repr

structure Sighting where
  track : Point
  link : Option Link
  deriving DecidableEq, Repr

namespace Sighting

/-- The detection of a sighting, if it came through the given channel. -/
def detectionOf? (channel : Nat) (s : Sighting) : Option Point :=
  s.link.bind fun link => if link.channel = channel then some link.detection else none

/-- The line from track to detection through the given channel, as its two ends. -/
def lineOf (channel : Nat) (s : Sighting) : List Point :=
  match s.detectionOf? channel with
  | some detection => [s.track, detection]
  | none => []

end Sighting

namespace Canvas

/-- Height of associated detections above their measured position. -/
def detectionHeight (c : Canvas) : Float :=
  c.parameters.trackHeightOffset + c.parameters.assignHeightOffset

/-- The detection that a snapshot is associated with; the channel is checked first. -/
def link (c : Canvas) (s : Snapshot) : Except Fault Link :=
  if 0 ≤ s.channel ∧ s.channel < c.channelCount then do
    let detection ← Point.ofVector c.detectionHeight s.detectionPoint
    pure ⟨s.channel.toNat, detection⟩
  else .error (.violation (.channelIndex s.channel c.channelCount))

def sighting (c : Canvas) (s : Snapshot) : Except Fault Sighting := do
  let track ← Point.ofVector c.parameters.trackHeightOffset s.trackerPoint
  if s.associated then
    let link ← c.link s
    pure ⟨track, some link⟩
  else pure ⟨track, none⟩

/-! ## Name spaces -/

def labelSpace : String := "existence_probability"

def trackBoxSpace : String := "track_boxes"

def detectionBoxSpace (channel : Channel) : String := "detect_boxes_" ++ channel.shortName

def lineSpace (channel : Channel) : String := "association_lines_" ++ channel.shortName

/-! ## Markers of a block -/

/-- A marker of the block that a snapshot anchors. -/
def anchored (c : Canvas) (anchor : Snapshot) (space : String) (shape : Marker.Shape)
    (scale : Point) (color : Color) (points : List Point) : Marker where
  header := ⟨c.frame, anchor.time⟩
  space := space
  id := anchor.identity.markerId
  shape := shape
  scale := scale
  color := color
  lifetime := c.parameters.markerLifetime
  points := points

/-- The action of a channel's marker: a marker without points deletes what was drawn before. -/
def channelAction (points : List Point) : Marker.Action :=
  if points.isEmpty then .delete else .add

def detectionBoxes (c : Canvas) (anchor : Snapshot) (sightings : List Sighting)
    (channel : Channel) (index : Nat) : Marker :=
  let points := sightings.filterMap (Sighting.detectionOf? index)
  { c.anchored anchor (detectionBoxSpace channel) .cubeList
      (Point.cube c.parameters.detectBoxScale) (Color.channel index) points with
    action := channelAction points }

/-- The marker of the lines from tracks to a channel's associated detections. -/
def associationLines (c : Canvas) (anchor : Snapshot) (sightings : List Sighting)
    (channel : Channel) (index : Nat) : Marker :=
  let points := sightings.flatMap (Sighting.lineOf index)
  { c.anchored anchor (lineSpace channel) .lineList ⟨c.parameters.lineWidth, 0.0, 0.0⟩
      (Color.channel index) points with
    action := channelAction points }

/-- Whether none of the sightings has a detection. -/
def coasting (sightings : List Sighting) : Bool := sightings.all fun s => s.link.isNone

def labelMarker (c : Canvas) (anchor : Snapshot) (place : Point) (text : String)
    (sightings : List Sighting) : Marker :=
  { c.anchored anchor labelSpace .facingText ⟨0.0, 0.0, c.parameters.textScale⟩
      (if coasting sightings then .coastingLabel else .label) [] with
    position := place
    text := text }

def trackBoxes (c : Canvas) (anchor : Snapshot) (sightings : List Sighting) : Marker :=
  c.anchored anchor trackBoxSpace .cubeList (Point.cube c.parameters.trackBoxScale)
    (if coasting sightings then .coastingTrackBox else .trackBox) (sightings.map Sighting.track)

/-- The block of an object: detection boxes and association lines in channel order, label, track
boxes. -/
def block (c : Canvas) (anchor : Snapshot) (place : Point) (text : String)
    (sightings : List Sighting) : Scene :=
  c.channels.mapIdx (fun index channel => c.detectionBoxes anchor sightings channel index) ++
    c.channels.mapIdx (fun index channel => c.associationLines anchor sightings channel index) ++
    [c.labelMarker anchor place text sightings, c.trackBoxes anchor sightings]

/-! ## Drawing -/

def drawGroup (c : Canvas) : List Snapshot → Except Fault Scene
  | [] => .error .itemMissing
  | anchor :: rest => do
      let place ← Point.ofVector c.parameters.textHeightOffset anchor.trackerPoint
      let text ← c.label anchor
      -- every snapshot passes its checks before the first marker is made
      let sightings ← (anchor :: rest).mapM c.sighting
      pure (c.block anchor place text sightings)

/-- Draws groups one after the other; empty groups leave no trace. -/
def draw (c : Canvas) (groups : List (List Snapshot)) : Except Fault Scene := do
  let blocks ← (groups.filter fun group => !group.isEmpty).mapM c.drawGroup
  pure blocks.flatten

end Canvas
end TrackOverlay
