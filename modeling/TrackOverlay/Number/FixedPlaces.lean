import TrackOverlay.Number.Binary64
import TrackOverlay.Number.Digits

/-!
# FixedPlaces — doubles written with a fixed count of decimals

The exact value is rounded to the nearest multiple of `10 ^ -places`; a half goes to the even
neighbour.  The sign survives rounding to zero, and no value is written with an exponent.
-/

namespace TrackOverlay

/-- The natural number nearest to `num / den`; a half goes to the even neighbour. -/
def nearestQuotient (num den : Nat) : Nat :=
  let q := num / den
  let r := num % den
  if 2 * r < den then q else if den < 2 * r then q + 1 else q + q % 2

namespace FixedPlaces

/-- A count of `10 ^ -places` written with `places` decimals. -/
def textOfUnits (places units : Nat) : String :=
  let fraction := (Digits.ofNat 10 places (units % Nat.pow 10 places)).map Nat.digitChar
  toString (units / Nat.pow 10 places) ++ "." ++ String.ofList fraction

def text (places : Nat) (x : Float) : String :=
  match Binary64.ofFloat x with
  | .nan => Binary64.nanText
  | .infinite negative => Binary64.infiniteText negative
  | .finite negative m e =>
      let units := nearestQuotient (Binary64.numerator m e * Nat.pow 10 places) (Binary64.denominator e)
      Binary64.signText negative ++ textOfUnits places units

end FixedPlaces

end TrackOverlay
