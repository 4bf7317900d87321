import TrackOverlay.Text.Blank
import TrackOverlay.Text.DecimalDigit

/-!
# Numeral — whole numbers read from text and written to it

A numeral is an optional sign and decimal digits of any script, with blanks around it.  A single
underscore may stand between two digits.  Leading zeros are fine, but count as digits: a numeral
with more than `maxDigits` of them is refused for its length, whatever follows its digits.

Whether the writing of numbers has a limit as well depends on the runtime (`write`).  The messages
of refusals name their numbers in full, as a runtime without a limit does.
-/

namespace TrackOverlay
namespace Numeral

/-- The most digits in a numeral, where a runtime is not told otherwise. -/
def maxDigits : Nat := 4300

/-! ## Reading -/

inductive Refusal where
  | malformed
  | tooLong (digits : Nat)
  deriving DecidableEq, Repr

/-- Whether a character may stand in the digits of a numeral. -/
def isPlace (c : Char) : Bool := c = '_' || (DecimalDigit.value? c).isSome

/-- Whether every underscore stands between two digits, and there is a digit at all. -/
def separated (afterDigit : Bool) : List Char → Bool
  | [] => afterDigit
  | c :: cs => if c = '_' then afterDigit && separated false cs else separated true cs

/-- The number that digits stand for, most significant first. -/
def value (digits : List Nat) : Nat := digits.foldl (fun n d => 10 * n + d) 0

/-- Reads digits and the blanks after them. -/
def readUnsigned (cs : List Char) : Except Refusal Nat :=
  let places := cs.takeWhile isPlace
  let digits := places.filterMap DecimalDigit.value?
  if !separated false places then .error .malformed
  -- the length is judged before what follows the digits
  else if maxDigits < digits.length then .error (.tooLong digits.length)
  else if (cs.dropWhile isPlace).all Blank.holds then .ok (value digits)
  else .error .malformed

/-- Reads an optional sign and what follows it. -/
def readSigned : List Char → Except Refusal Int
  | '-' :: cs => (readUnsigned cs).map fun n => -(n : Int)
  | '+' :: cs => (readUnsigned cs).map fun n => (n : Int)
  | cs => (readUnsigned cs).map fun n => (n : Int)

/-- The whole number that a text stands for. -/
def read (s : String) : Except Refusal Int := readSigned (s.toList.dropWhile Blank.holds)

/-! ## Writing -/

/-- The text of a number on a runtime that writes at most so many digits, or any number of them.  The
refusal names the limit. -/
def write (limit : Option Nat) (n : Int) : Except Nat String :=
  match limit with
  | none => .ok (toString n)
  | some digits =>
      if (Nat.toDigits 10 n.natAbs).length ≤ digits then .ok (toString n) else .error digits

end Numeral
end TrackOverlay
