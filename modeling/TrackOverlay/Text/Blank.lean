/-!
# Blank — white space of every script

The characters with Unicode's property `White_Space`.
-/

namespace TrackOverlay
namespace Blank

/-- Intervals of code points of the blank characters, in ascending order. -/
def intervals : List (Nat × Nat) :=
  [(0x09, 0x0D), (0x20, 0x20), (0x85, 0x85), (0xA0, 0xA0), (0x1680, 0x1680), (0x2000, 0x200A),
    (0x2028, 0x2029), (0x202F, 0x202F), (0x205F, 0x205F), (0x3000, 0x3000)]

def holds (c : Char) : Bool :=
  intervals.any fun (first, last) => first ≤ c.toNat && c.toNat ≤ last

end Blank
end TrackOverlay
