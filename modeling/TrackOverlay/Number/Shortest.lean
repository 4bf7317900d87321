import TrackOverlay.Number.Binary64

/-!
# Shortest — doubles written with the fewest digits that read back

The decimal numbers that round to a given double form an interval around it.  Among them the text
takes one with the fewest digits, and of those the nearest; a tie goes to the even digit.  The
search walks the decimal grids `10 ^ k` from coarse to fine and tests, in exact arithmetic, the two
grid points next to the value.

`Shortest.Style` holds the choices that are about form only: when a number is written positionally
and how wide an exponent is.
-/

namespace TrackOverlay
namespace Shortest

/-- The numbers that round to a positive double, in units of `2 ^ exponent`. -/
structure Interval where
  lower : Nat
  value : Nat
  upper : Nat
  exponent : Int
  /-- An even mantissa also attracts the two end points. -/
  closed : Bool

/-- The rounding interval of `m · 2 ^ e`, in quarters of the last place.  Below a power of two the
spacing halves, so the lower end is nearer there. -/
def interval (m : Nat) (e : Int) : Interval where
  lower := 4 * m - (if m = Nat.pow 2 52 ∧ Binary64.minExponent < e then 1 else 2)
  value := 4 * m
  upper := 4 * m + 2
  exponent := e - 2
  closed := m % 2 = 0

def inside (closed : Bool) (lower x upper : Nat) : Bool :=
  if closed then lower ≤ x && x ≤ upper else lower < x && x < upper

/-- The point `d · 10 ^ k` of the grid next to the value that lies in the interval, if any. -/
def gridPoint? (i : Interval) (k : Int) : Option Nat :=
  let up := Nat.pow 2 i.exponent.toNat * Nat.pow 10 (-k).toNat
  let down := Nat.pow 2 (-i.exponent).toNat * Nat.pow 10 k.toNat
  let value := i.value * up
  let below := value / down
  let above := below + 1
  let hits (d : Nat) : Bool := inside i.closed (i.lower * up) (d * down) (i.upper * up)
  if hits below then
    if hits above then
      -- of two hits the nearer, on a tie the even one
      let fromBelow := value - below * down
      let toAbove := above * down - value
      if fromBelow < toAbove then some below
      else if toAbove < fromBelow then some above
      else some (if below % 2 = 0 then below else above)
    else some below
  else if hits above then some above
  else none

def decimalLength (n : Nat) : Nat := (Nat.toDigits 10 n).length

/-- The decimal exponent of the leading digit of the positive number `num / den`. -/
def leadingExponent (num den : Nat) : Int :=
  if den ≤ num then (decimalLength (num / den) : Int) - 1
  else -(decimalLength ((den - 1) / num) : Int)

structure Decimal where
  digits : Nat
  exponent : Int
  deriving DecidableEq, Repr

/-- The shortest decimal that reads back as the positive double `m · 2 ^ e`.  Seventeen digits always
suffice, so eighteen grids are walked, the first one a place above the leading digit. -/
def decimal (m : Nat) (e : Int) : Decimal :=
  let i := interval m e
  let top := leadingExponent (Binary64.numerator m e) (Binary64.denominator e) + 1
  let found := (List.range 18).findSome? fun (depth : Nat) =>
    (gridPoint? i (top - depth)).map fun d => Decimal.mk d (top - depth)
  found.getD ⟨0, 0⟩

/-- How a decimal is spelled: the leading exponents written positionally, and the least count of
digits of an exponent. -/
structure Style where
  positionalFrom : Int
  positionalBelow : Int
  exponentWidth : Nat

/-- The style of numbers in messages: positional from `10 ^ -4` up to below `10 ^ 16`. -/
def Style.message : Style := ⟨-4, 16, 2⟩

def zeros (count : Nat) : List Char := List.replicate count '0'

/-- Digits with the decimal point after the first `point` of them, filled with zeros on either side;
at least one digit stands on each side of the point. -/
def positional (digits : List Char) (point : Int) : List Char :=
  if point ≤ 0 then '0' :: '.' :: zeros (-point).toNat ++ digits
  else if (digits.length : Int) ≤ point then
    digits ++ zeros (point.toNat - digits.length) ++ ['.', '0']
  else digits.take point.toNat ++ '.' :: digits.drop point.toNat

/-- Digits with the point after the first one, and the power of ten that the leading digit has. -/
def scientific (width : Nat) (digits : List Char) (leading : Int) : List Char :=
  let power := Nat.toDigits 10 leading.natAbs
  let mantissa := match digits with
    | [] => []
    | [d] => [d]
    | d :: ds => d :: '.' :: ds
  mantissa ++ 'e' :: (if leading < 0 then '-' else '+') :: zeros (width - power.length) ++ power

def Decimal.render (style : Style) (d : Decimal) : List Char :=
  let digits := Nat.toDigits 10 d.digits
  let point := d.exponent + digits.length
  let leading := point - 1
  if style.positionalFrom ≤ leading ∧ leading < style.positionalBelow then positional digits point
  else scientific style.exponentWidth digits leading

/-- A double with the fewest digits that read back. -/
def text (x : Float) : String :=
  match Binary64.ofFloat x with
  | .nan => Binary64.nanText
  | .infinite negative => Binary64.infiniteText negative
  | .finite negative 0 _ => Binary64.signText negative ++ "0.0"
  | .finite negative m e =>
      Binary64.signText negative ++ String.ofList ((decimal m e).render .message)

end Shortest
end TrackOverlay
