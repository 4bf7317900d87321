import TrackOverlay.Geometry.Position
import TrackOverlay.Identity

/-!
# TrackedObject — single object estimates and lists of detections

An object estimate is a detection or what a tracker says about its object.  The detections of one
cycle all come from one channel and keep the order of the detector.
-/

namespace TrackOverlay

structure TrackedObject where
  identity : Identity
  position : Position
  deriving DecidableEq, Repr

/-- The estimate of an object from its position data, where arrays have at most so many levels. -/
def TrackedObject.ofCoordinates (limit : Nat) (identity : Identity) (c : Coordinates) :
    Except Fault TrackedObject :=
  (Position.ofCoordinates limit c).map fun position => ⟨identity, position⟩

structure Detections where
  timestamp : Float
  /-- Index of the originating channel, which need not be configured. -/
  channel : Int
  objects : List TrackedObject
  deriving DecidableEq, Repr

def Detections.size (d : Detections) : Nat := d.objects.length

end TrackOverlay
