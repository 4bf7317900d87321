import TrackOverlay.Channel
import TrackOverlay.Parameters

/-!
# Canvas — what all scenes of an overlay have in common

The reference frame, the channel configuration and the parameters are fixed for the lifetime of an
overlay, and so is the runtime that it is part of.
-/

namespace TrackOverlay

/-- The fixed part of an overlay. -/
structure Canvas where
  frame : String
  /-- Channels in configuration order; a channel is known by its position here. -/
  channels : List Channel
  parameters : Parameters := {}
  /-- The most digits of a number that the runtime writes, if it has such a limit. -/
  digitLimit : Option Nat := some Numeral.maxDigits
  deriving DecidableEq, Repr

def Canvas.channelCount (c : Canvas) : Nat := c.channels.length

end TrackOverlay
