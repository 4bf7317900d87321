import TrackOverlay.TrackedObject

/-!
# Tracker — what the overlay asks of a tracker

The motion model and the estimation of existence live elsewhere; a tracker is seen through the
answers that it gives.  It names its object, states one existence probability per channel and one
overall, and estimates its object at any time.  Any of its answers may fail, for a reason of its own
or for one of the faults known here.

A vector is answered as a copy, so whoever receives it may change it without the tracker noticing.
-/

namespace TrackOverlay

structure Tracker where
  /-- The identity text shown in labels. -/
  identityText : Except Fault String
  /-- Existence probabilities, one per configured channel. -/
  existence : Except Fault (List Float)
  total : Except Fault Float
  /-- Identity and position data of the object at a time. -/
  estimate : Float → Except Fault (Identity × Coordinates)
  /-- The most levels of an array where the tracker runs. -/
  maxDepth : Nat := Coordinates.maxDepth

namespace Tracker

/-- The object as the tracker sees it at a time. -/
def trackedObject (t : Tracker) (time : Float) : Except Fault TrackedObject := do
  let (identity, position) ← t.estimate time
  TrackedObject.ofCoordinates t.maxDepth identity position

/-- The existence vector that a tracker starts with: the given one, else a zero per channel. -/
def initialExistence (noMemory? : Nat → Option String) (given : Option (List Float))
    (channelCount : Int) : Except Fault (List Float) :=
  match given with
  | some existence => .ok existence
  | none =>
      match Storage.size noMemory? channelCount with
      | .error reason => .error (.size reason)
      | .ok size => .ok (List.replicate size 0.0)

/-- A tracker that sees its object at the same place at all times, and always answers. -/
def stationary (identityText : String) (existence : List Float) (total : Float)
    (tracked : Identity) (position : Coordinates) : Tracker where
  identityText := .ok identityText
  existence := .ok existence
  total := .ok total
  estimate _ := .ok (tracked, position)

/-- How many characters of the identity text a description shows. -/
def shownCharacters : Nat := 6

/-- A tracker of the named kind in one line. -/
def describe (kind : String) (t : Tracker) : Except Fault String := do
  let text ← t.identityText
  pure (kind ++ "(uuid=" ++ String.ofList (text.toList.take shownCharacters) ++ ")")

/-! ## Changes between cycles -/

def moveTo (t : Tracker) (position : Coordinates) : Tracker :=
  { t with estimate := fun time => (t.estimate time).map fun (identity, _) => (identity, position) }

/-- The tracker with one existence probability replaced. -/
def setExistenceAt (t : Tracker) (index : Int) (value : Float) : Except Fault Tracker := do
  let existence ← t.existence
  match Storage.place index existence.length with
  | .error reason => .error (.index reason)
  | .ok place => .ok { t with existence := .ok (existence.set place value) }

end Tracker
end TrackOverlay
