import TrackOverlay.Number.Digits
import TrackOverlay.Text.Printable

/-!
# Quoted — text shown inside a message

Text is shown between quotes with every character that is not printable spelled by its code point.
Single quotes are used unless they would have to be escaped and double quotes would not.
-/

namespace TrackOverlay
namespace Quoted

def single : Char := '\x27'

def double : Char := '\x22'

/-- The quote that needs no escape, if one of the two does not occur; else the single one. -/
def quoteFor (cs : List Char) : Char :=
  if cs.contains single && !cs.contains double then double else single

/-- A code point in `width` hexadecimal digits. -/
def hexEscape (marker : Char) (width : Nat) (c : Char) : List Char :=
  '\\' :: marker :: (Digits.ofNat 16 width c.toNat).map Nat.digitChar

/-- One character between the quotes `quote`. -/
def escape (quote c : Char) : List Char :=
  if c = quote ∨ c = '\\' then ['\\', c]
  else if c = '\t' then ['\\', 't']
  else if c = '\n' then ['\\', 'n']
  else if c = '\r' then ['\\', 'r']
  else if Printable.holds c then [c]
  else if c.toNat < 0x100 then hexEscape 'x' 2 c
  else if c.toNat < 0x10000 then hexEscape 'u' 4 c
  else hexEscape 'U' 8 c

def text (cs : List Char) : List Char :=
  let quote := quoteFor cs
  quote :: cs.flatMap (escape quote) ++ [quote]

end Quoted
end TrackOverlay
