import TrackOverlay.Fault
import TrackOverlay.Scene.Canvas
import TrackOverlay.Snapshot

/-!
# Label — existence probabilities in words

A label has a line with the overall existence percentage, a line with one token for each channel
that contributes, and the leading characters of the object's identity text.  A channel contributes
unless its probability lies below the display threshold; without any such channel the middle line
is left out.
-/

namespace TrackOverlay

/-- A probability in whole percent, cut off toward zero. -/
def percent (p : Float) : Except Fault Int :=
  (Binary64.ofFloat (p * 100.0)).integerPart.mapError .percentage

namespace Canvas

/-- The channels that contribute to a label, with their probabilities. -/
def shownChannels (c : Canvas) (s : Snapshot) : List (Channel × Float) :=
  (c.channels.zip s.existence).filter fun entry =>
    !decide (entry.2 < c.parameters.probabilityThreshold)

/-- The token of a channel: its short name and its percentage. -/
def token (entry : Channel × Float) : Except Fault String := do
  let p ← percent entry.2
  pure (entry.1.shortName ++ toString p)

def shownIdentity (c : Canvas) (s : Snapshot) : String :=
  String.ofList (s.identityText.toList.take c.parameters.prefixLength.toNat)

/-- The lines of a label, given its total and its tokens. -/
def labelLines (total : Int) (tokens : List String) (identity : String) : List String :=
  ("total:" ++ toString total) ::
    if tokens.isEmpty then [identity] else [String.intercalate ":" tokens, identity]

def label (c : Canvas) (s : Snapshot) : Except Fault String :=
  if s.existence.length ≠ c.channelCount then
    .error (.violation (.vectorSize s.identityText s.existence.length c.channelCount))
  else do
    let total ← percent s.total
    let tokens ← (c.shownChannels s).mapM token
    pure (String.intercalate "\n" (labelLines total tokens (c.shownIdentity s)))

end Canvas
end TrackOverlay
