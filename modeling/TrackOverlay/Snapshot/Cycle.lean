import TrackOverlay.Assignment
import TrackOverlay.Snapshot
import TrackOverlay.Snapshot.Inquiry

/-!
# Cycle — snapshots of all trackers at one time

A cycle is what the tracking loop hands over: the time, the live trackers, the detections of one
channel and which tracker took which detection.  Collecting it asks each tracker in turn and takes
its snapshot, or stops at the first tracker whose data does not fit.

For each tracker the checks are, in this order: its position, the assigned detection, the channel of
that detection, the size of its existence vector.  Channel and detection are checked only if
something is assigned.  An answer of the tracker is asked for where it is first needed, so one that
fails ends the collection there.
-/

namespace TrackOverlay

structure Cycle where
  time : Float
  trackers : List Tracker
  detections : Detections
  assignment : Assignment

namespace Cycle

/-- The detection assigned to the tracker at a position, checked against the detections and the
count of channels. -/
def associated (c : Cycle) (channelCount : Int) (position : Nat) :
    Except Fault (Option TrackedObject) :=
  match c.assignment position with
  | none => .ok none
  | some index =>
      -- a negative index names no detection, it does not count from the end
      match if 0 ≤ index then c.detections.objects[index.toNat]? else none with
      | none => .error (.violation (.assignmentIndex position index c.detections.size))
      | some detection =>
          if 0 ≤ c.detections.channel ∧ c.detections.channel < channelCount then
            .ok (some detection)
          else .error (.violation (.channelIndex c.detections.channel channelCount))

/-- The snapshot of a tracker whose object is known; an object without detection is shown at its own
position. -/
def snapshotOf (c : Cycle) (channelCount : Int) (position : Nat) (t : Tracker)
    (object : TrackedObject) : Except Fault Snapshot := do
  let identityText ← t.identityText
  let detection? ← c.associated channelCount position
  let existence ← t.existence
  if (existence.length : Int) = channelCount then
    let total ← t.total
    pure
      { identity := object.identity
        identityText := identityText
        time := c.time
        channel := c.detections.channel
        trackerPoint := object.position.toList
        detectionPoint := (detection?.getD object).position.toList
        associated := detection?.isSome
        existence := existence
        total := total }
  else .error (.violation (.vectorSize identityText existence.length channelCount))

/-- Asks the tracker at a position and takes its snapshot. -/
def takeSnapshot (c : Cycle) (channelCount : Int) (position : Nat) (t : Tracker) :
    Inquiry Snapshot := do
  let object ← Inquiry.ask position t c.time
  Inquiry.ofExcept (c.snapshotOf channelCount position t object)

/-- The snapshots of the trackers that stand from a position on. -/
def collectFrom (c : Cycle) (channelCount : Int) : Nat → List Tracker → Inquiry (List Snapshot)
  | _, [] => pure []
  | position, t :: ts => do
      let snapshot ← c.takeSnapshot channelCount position t
      let rest ← c.collectFrom channelCount (position + 1) ts
      pure (snapshot :: rest)

def collect (c : Cycle) (channelCount : Int) : Inquiry (List Snapshot) :=
  c.collectFrom channelCount 0 c.trackers

end Cycle
end TrackOverlay
