import TrackOverlay.Fault

/-!
# Position — object positions and the data they are read from

A detector or tracker states a position as a number or as numbers nested in arrays.  The nesting must
be that of an array: on every level all parts have the same sizes.  How the numbers are nested in it
does not matter then: a position is exactly three numbers in reading order.
-/

namespace TrackOverlay

/-- Numbers as they are handed in, nested in arrays to any depth. -/
inductive Coordinates where
  | number (x : Float)
  | nested (items : List Coordinates)

/-- The beginning that two lists of sizes have in common. -/
def commonSizes : List Nat → List Nat → List Nat
  | m :: ms, n :: ns => if m = n then m :: commonSizes ms ns else []
  | _, _ => []

namespace Coordinates

mutual

/-- The numbers in reading order. -/
def leaves : Coordinates → List Float
  | .number x => [x]
  | .nested items => leavesOfItems items

def leavesOfItems : List Coordinates → List Float
  | [] => []
  | item :: items => leaves item ++ leavesOfItems items

end

mutual

/-- The sizes of the array that the nesting makes, from the outermost level inwards. -/
def shape? : Coordinates → Option (List Nat)
  | .number _ => some []
  | .nested items => (shapeOfItems? items).map (items.length :: ·)

/-- The shape of all items; an array without items ends the nesting. -/
def shapeOfItems? : List Coordinates → Option (List Nat)
  | [] => some []
  | [item] => shape? item
  | item :: items => if shape? item = shapeOfItems? items then shape? item else none

end

mutual

/-- The sizes of the levels down to the first one on which parts differ. -/
def outline : Coordinates → List Nat
  | .number _ => []
  | .nested items => items.length :: outlineOfItems items

def outlineOfItems : List Coordinates → List Nat
  | [] => []
  | [item] => outline item
  | item :: items => commonSizes (outline item) (outlineOfItems items)

end

/-- The most levels of an array in version 2 of the array library; version 1 has 32. -/
def maxDepth : Nat := 64

/-- Whether the nesting makes an array of at most so many levels. -/
def isArray (limit : Nat) (c : Coordinates) : Bool :=
  match c.shape? with
  | some sizes => sizes.length ≤ limit
  | none => false

/-- Why the nesting makes no array of at most so many levels: it goes on beyond them, or its parts
differ before. -/
def arrayFault (limit : Nat) (c : Coordinates) : Fault :=
  match c.shape? with
  | some _ => .positionTooDeep limit
  | none =>
      if c.outline.length < limit then .positionRagged c.outline else .positionTooDeep limit

def ofVector (xs : List Float) : Coordinates := .nested (xs.map .number)

end Coordinates

structure Position where
  x : Float
  y : Float
  z : Float
  deriving DecidableEq, Repr

namespace Position

/-- The position at exactly three coordinates, in an array of at most so many levels. -/
def ofCoordinates (limit : Nat) (c : Coordinates) : Except Fault Position :=
  -- the nesting is judged before the count
  if c.isArray limit then
    match c.leaves with
    | [x, y, z] => .ok ⟨x, y, z⟩
    | leaves => .error (.positionSize leaves.length)
  else .error (c.arrayFault limit)

def toList (p : Position) : List Float := [p.x, p.y, p.z]

@[simp] theorem length_toList (p : Position) : p.toList.length = 3 := rfl

end Position
end TrackOverlay
