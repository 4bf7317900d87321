import TrackOverlay.Geometry.Point
import TrackOverlay.Scene.Color

/-!
# Marker — visual primitives and the scenes made of them

A marker is one primitive of a scene.  Its name space and number identify it to the renderer: a later
marker with the same two overwrites it, or deletes it if its action says so.
-/

namespace TrackOverlay

structure Header where
  frame : String := ""
  stamp : Float := 0.0
  deriving DecidableEq, Repr

namespace Marker

inductive Shape where
  | lineList
  | cubeList
  | facingText
  deriving DecidableEq, Repr

namespace Shape

def code : Shape → Int
  | .lineList => 5
  | .cubeList => 6
  | .facingText => 9

def ofCode (n : Int) : Except Fault Shape :=
  match [lineList, cubeList, facingText].find? fun s => s.code = n with
  | some s => .ok s
  | none => .error (.unknownCode .markerShape n)

end Shape

inductive Action where
  | add
  | delete
  deriving DecidableEq, Repr

namespace Action

def code : Action → Int
  | .add => 0
  | .delete => 2

def ofCode (n : Int) : Except Fault Action :=
  match [add, delete].find? fun a => a.code = n with
  | some a => .ok a
  | none => .error (.unknownCode .markerAction n)

end Action

end Marker

structure Marker where
  header : Header := {}
  /-- Name space; together with the number it identifies the marker. -/
  space : String := ""
  id : Int := 0
  shape : Marker.Shape := .cubeList
  action : Marker.Action := .add
  /-- Place of a text; the points of lists are absolute. -/
  position : Point := {}
  scale : Point := {}
  color : Color := {}
  /-- Seconds until the renderer drops the marker. -/
  lifetime : Float := 0.0
  points : List Point := []
  text : String := ""
  deriving DecidableEq, Repr

/-- What identifies a marker to the renderer. -/
def Marker.key (m : Marker) : String × Int := (m.space, m.id)

/-- Markers in the order in which they are drawn. -/
abbrev Scene := List Marker

namespace Scene

def empty : Scene := []

/-- The scene with one more marker, drawn last. -/
def add (scene : Scene) (m : Marker) : Scene := scene ++ [m]

def size (scene : Scene) : Nat := scene.length

def spaces (scene : Scene) : List String := scene.map Marker.space

end Scene

end TrackOverlay
