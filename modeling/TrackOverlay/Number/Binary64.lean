/-!
# Binary64 — the exact value behind a double

A double is split into the three kinds of value that its 64 bits can stand for.  Everything that
prints or truncates a double works on this exact value over natural numbers, so no result depends
on how floating-point text is produced elsewhere.
-/

namespace TrackOverlay

/-- What a double stands for: `finite negative m e` is `± m · 2 ^ e`, with the sign kept on zero. -/
inductive Binary64 where
  | nan
  | infinite (negative : Bool)
  | finite (negative : Bool) (mantissa : Nat) (exponent : Int)
  deriving DecidableEq, Repr

namespace Binary64

/-- Smallest exponent of a finite value; values below `2 ^ 52 · 2 ^ minExponent` are subnormal. -/
def minExponent : Int := -1074

/-- The value of a 64-bit word: one sign bit, eleven exponent bits, fifty-two fraction bits. -/
def ofWord (word : Nat) : Binary64 :=
  let negative := decide (Nat.pow 2 63 ≤ word)
  let field : Nat := word / Nat.pow 2 52 % Nat.pow 2 11
  let fraction : Nat := word % Nat.pow 2 52
  if field = 2047 then
    if fraction = 0 then .infinite negative else .nan
  -- without an exponent there is no leading bit either
  else if field = 0 then .finite negative fraction minExponent
  else .finite negative (Nat.pow 2 52 + fraction) (minExponent + field - 1)

def ofFloat (x : Float) : Binary64 := ofWord x.toBits.toNat

/-- Numerator of `m · 2 ^ e` over the denominator `denominator e`. -/
def numerator (m : Nat) (e : Int) : Nat := m * Nat.pow 2 e.toNat

def denominator (e : Int) : Nat := Nat.pow 2 (-e).toNat

def signed (negative : Bool) (n : Nat) : Int := if negative then -(n : Int) else n

/-- Why a double has no integer part. -/
inductive NotFinite where
  | nan
  | infinite
  deriving DecidableEq, Repr

def NotFinite.message : NotFinite → String
  | .nan => "cannot convert float NaN to integer"
  | .infinite => "cannot convert float infinity to integer"

/-- The integer part of a value, dropping the fraction toward zero. -/
def integerPart : Binary64 → Except NotFinite Int
  | .nan => .error .nan
  | .infinite _ => .error .infinite
  | .finite negative m e => .ok (signed negative (numerator m e / denominator e))

def signText (negative : Bool) : String := if negative then "-" else ""

def infiniteText (negative : Bool) : String := signText negative ++ "inf"

def nanText : String := "nan"

end Binary64
end TrackOverlay
