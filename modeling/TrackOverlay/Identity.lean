import TrackOverlay.Number.Digits

/-!
# Identity — persistent 128-bit object identities

Every tracked object carries an identity that stays with it from cycle to cycle.  An identity is a
number below `2 ^ 128`; identities are ordered by that number.  This file holds its two written
forms, sixteen bytes and thirty-two hexadecimal digits, both most significant first.
-/

namespace TrackOverlay

structure Identity where
  value : Nat
  value_lt : value < Nat.pow 2 128
  deriving DecidableEq, Repr

namespace Identity

@[ext] theorem ext {a b : Identity} (h : a.value = b.value) : a = b := by
  cases a
  cases b
  cases h
  rfl

instance : LT Identity := ⟨fun a b => a.value < b.value⟩

instance (a b : Identity) : Decidable (a < b) := Nat.decLt a.value b.value

theorem lt_def {a b : Identity} : a < b ↔ a.value < b.value := Iff.rfl

/-- The identity of a number, taken modulo `2 ^ 128`. -/
def ofNat (n : Nat) : Identity := ⟨n % Nat.pow 2 128, Nat.mod_lt n (Nat.two_pow_pos 128)⟩

theorem ofNat_value (a : Identity) : ofNat a.value = a :=
  ext (Nat.mod_eq_of_lt a.value_lt)

/-! ## Written forms -/

/-- The sixteen bytes of an identity, most significant first. -/
def bytes (a : Identity) : List Nat := Digits.ofNat 256 16 a.value

/-- The thirty-two hexadecimal digits of an identity, in lower case and without separators. -/
def hexText (a : Identity) : String :=
  String.ofList ((Digits.ofNat 16 32 a.value).map Nat.digitChar)

def hexDigit? (c : Char) : Option Nat :=
  if '0' ≤ c ∧ c ≤ '9' then some (c.toNat - '0'.toNat)
  else if 'a' ≤ c ∧ c ≤ 'f' then some (c.toNat - 'a'.toNat + 10)
  else none

def ofHexText? (s : String) : Option Identity :=
  if s.length = 32 then
    (s.toList.mapM hexDigit?).map fun digits => ofNat (Digits.toNat 16 digits)
  else none

end Identity
end TrackOverlay
