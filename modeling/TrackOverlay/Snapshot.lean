import TrackOverlay.Identity

/-!
# Snapshot — the state of one object in one cycle

A snapshot is taken of every tracker in every cycle.  Points are kept as the coordinates that were
handed in; snapshots made elsewhere may hold points and vectors of any length.
-/

namespace TrackOverlay

/-- The state of one tracked object in one cycle. -/
structure Snapshot where
  identity : Identity
  /-- The identity as the tracker writes it, for labels. -/
  identityText : String
  time : Float := 0.0
  /-- Channel of the associated detection; without meaning if nothing is associated. -/
  channel : Int := 0
  trackerPoint : List Float := [0.0, 0.0, 0.0]
  /-- Position of the associated detection, or the tracker's if nothing is associated. -/
  detectionPoint : List Float := [0.0, 0.0, 0.0]
  associated : Bool := false
  /-- Existence probabilities, one per configured channel. -/
  existence : List Float := []
  total : Float := 0.0
  deriving DecidableEq, Repr

end TrackOverlay
