import TrackOverlay.Identity

/-!
# MarkerId — identities projected to signed 32-bit numbers

Markers are numbered by signed 32-bit integers.  The number of an object is a hash of its sixteen
identity bytes, so it is the same in every run and on every machine.  Two objects may share a number.
-/

namespace TrackOverlay
namespace Identity

/-- The 32-bit fraction of the golden ratio, which spreads small differences over all bits. -/
def goldenRatio : Nat := 0x9E3779B9

/-- One round of the hash: the byte, the constant and two shifts of the seed are summed modulo
`2 ^ 32` and combined with the seed. -/
def mix (seed byte : Nat) : Nat :=
  seed ^^^ ((byte + goldenRatio + (seed <<< 6) + (seed >>> 2)) % Nat.pow 2 32)

/-- The hash of the identity bytes, most significant byte first. -/
def hash (a : Identity) : Nat := a.bytes.foldl mix 0

/-- Reads a 32-bit word as a signed number. -/
def signed32 (word : Nat) : Int :=
  if word < Nat.pow 2 31 then word else (word : Int) - Nat.pow 2 32

def markerId (a : Identity) : Int := signed32 a.hash

end Identity
end TrackOverlay
