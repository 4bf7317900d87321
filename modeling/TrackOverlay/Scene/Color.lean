/-!
# Color — marker colors and the channel palette

Colors have red, green and blue parts and an opacity, all meant to lie between zero and one.  Each
channel is drawn in a color of the palette; the palette repeats every sixteen channels.
-/

namespace TrackOverlay

structure Color where
  red : Float := 0.0
  green : Float := 0.0
  blue : Float := 0.0
  alpha : Float := 0.0
  deriving DecidableEq, Repr

/-- A color of the palette, without opacity. -/
structure Hue where
  red : Float
  green : Float
  blue : Float
  deriving DecidableEq, Repr

namespace Color

/-- Up to four parts in order, the others zero. -/
def ofLeading (parts : List Float) : Color :=
  ⟨parts[0]?.getD 0.0, parts[1]?.getD 0.0, parts[2]?.getD 0.0, parts[3]?.getD 0.0⟩

def toList (c : Color) : List Float := [c.red, c.green, c.blue, c.alpha]

/-! ## Fixed colors -/

def label : Color := ⟨1.0, 1.0, 1.0, 1.0⟩

def trackBox : Color := ⟨1.0, 1.0, 1.0, 0.9⟩

def coastingLabel : Color := ⟨0.5, 0.5, 0.5, 0.9⟩

def coastingTrackBox : Color := ⟨0.5, 0.5, 0.5, 0.8⟩

/-! ## Channel colors -/

def palette : Vector Hue 16 :=
  #v[
    ⟨0.0, 0.0, 1.0⟩,  -- blue
    ⟨0.0, 1.0, 0.0⟩,  -- green
    ⟨1.0, 1.0, 0.0⟩,  -- yellow
    ⟨1.0, 0.0, 0.0⟩,  -- red
    ⟨0.0, 1.0, 1.0⟩,  -- cyan
    ⟨1.0, 0.0, 1.0⟩,  -- magenta
    ⟨1.0, 0.64, 0.0⟩,  -- orange
    ⟨0.75, 1.0, 0.0⟩,  -- lime
    ⟨0.0, 0.5, 0.5⟩,  -- teal
    ⟨0.5, 0.0, 0.5⟩,  -- purple
    ⟨1.0, 0.75, 0.8⟩,  -- pink
    ⟨0.65, 0.17, 0.17⟩,  -- brown
    ⟨0.5, 0.0, 0.0⟩,  -- maroon
    ⟨0.5, 0.5, 0.0⟩,  -- olive
    ⟨0.0, 0.0, 0.5⟩,  -- navy
    ⟨0.5, 0.5, 0.5⟩]  -- grey

def channelAlpha : Float := 0.9

/-- The hue of a channel; indices below zero continue the palette backwards. -/
def hue (index : Int) : Hue := palette.get ⟨(index % 16).toNat, by omega⟩

def channel (index : Int) (alpha : Float := channelAlpha) : Color :=
  ⟨(hue index).red, (hue index).green, (hue index).blue, alpha⟩

end Color
end TrackOverlay
