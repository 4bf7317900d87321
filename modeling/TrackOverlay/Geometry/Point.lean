import TrackOverlay.Fault

/-!
# Point — points of the fixed frame

Markers are made of points.  A point is read from the first three entries of a vector or list of
coordinates, and may be raised so that it is not hidden by the ground; further entries do not
matter.
-/

namespace TrackOverlay

/-- A point of the fixed frame, and likewise a size along its three axes. -/
structure Point where
  x : Float := 0.0
  y : Float := 0.0
  z : Float := 0.0
  deriving DecidableEq, Repr

namespace Point

/-- The point at the first three coordinates, `raise` higher.  The sum is taken also when nothing is
added, so a negative zero becomes a positive one. -/
def raised? (raise : Float) : List Float → Option Point
  | x :: y :: z :: _ => some ⟨x, y, z + raise⟩
  | _ => none

theorem raised?_eq_none_iff {raise : Float} {coordinates : List Float} :
    raised? raise coordinates = none ↔ coordinates.length < 3 := by
  match coordinates with
  | [] => simp [raised?]
  | [_] => simp [raised?]
  | [_, _] => simp [raised?]
  | _ :: _ :: _ :: rest => simp [raised?]

/-- The raised point of a numeric vector; the first missing entry is reported. -/
def ofVector (raise : Float) (coordinates : List Float) : Except Fault Point :=
  match raised? raise coordinates with
  | some p => .ok p
  | none => .error (.index (.outside coordinates.length coordinates.length))

def ofList (raise : Float) (coordinates : List Float) : Except Fault Point :=
  match raised? raise coordinates with
  | some p => .ok p
  | none => .error .itemMissing

def cube (edge : Float) : Point := ⟨edge, edge, edge⟩

/-- Up to three coordinates in order, the others zero. -/
def ofLeading (coordinates : List Float) : Point :=
  ⟨coordinates[0]?.getD 0.0, coordinates[1]?.getD 0.0, coordinates[2]?.getD 0.0⟩

end Point
end TrackOverlay
