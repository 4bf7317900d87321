/-!
# Digits — natural numbers in a fixed count of places

Big-endian digits of a number in a given base, most significant digit first.  This file holds

* `Digits.ofNat` — the digits of a number in exactly `width` places;
* `Digits.toNat` — the number that a list of digits stands for;
* `Digits.toNat_ofNat` and `Digits.ofNat_toNat` — reading back what was written, and the other way round;
* `Digits.ofNat_concat` — the last digit, split off the others;
* `Digits.ofNat_lt_ofNat_iff` — digits in equally many places stand in the order of their numbers.

A number that does not fit keeps its excess in the leading digit; nothing is cut off.  Powers are
named `Nat.pow` throughout, so that they mean the same with and without further algebra at hand.
-/

namespace TrackOverlay
namespace Digits

variable {base width m n d : Nat} {digits : List Nat}

/-- The digits of `n` in `width` places, most significant first. -/
def ofNat (base : Nat) : Nat → Nat → List Nat
  | 0, _ => []
  | width + 1, n => n / base.pow width :: ofNat base width (n % base.pow width)

/-- The number whose digits, most significant first, are given. -/
def toNat (base : Nat) : List Nat → Nat
  | [] => 0
  | d :: ds => d * base.pow ds.length + toNat base ds

@[simp] theorem length_ofNat (base width n : Nat) : (ofNat base width n).length = width := by
  induction width generalizing n with
  | zero => rfl
  | succ width ih => simp [ofNat, ih]

theorem pow_pos_of_lt (hn : n < base.pow (width + 1)) : 0 < base.pow width := by
  refine Nat.pos_of_ne_zero fun h => ?_
  have hsucc : base.pow (width + 1) = base.pow width * base := rfl
  rw [hsucc, h, Nat.zero_mul] at hn
  exact Nat.not_lt_zero n hn

theorem lt_of_mem_ofNat (hn : n < base.pow width) (hd : d ∈ ofNat base width n) : d < base := by
  induction width generalizing n with
  | zero => cases hd
  | succ width ih =>
      have hpos : 0 < base.pow width := pow_pos_of_lt hn
      rcases List.mem_cons.1 hd with rfl | hrest
      · rw [Nat.div_lt_iff_lt_mul hpos, Nat.mul_comm]
        exact hn
      · exact ih (Nat.mod_lt n hpos) hrest

theorem toNat_lt (h : ∀ d ∈ digits, d < base) : toNat base digits < base.pow digits.length := by
  induction digits with
  | nil => exact Nat.one_pos
  | cons d digits ih =>
      rcases List.forall_mem_cons.1 h with ⟨hd, hdigits⟩
      calc d * base.pow digits.length + toNat base digits
          < d * base.pow digits.length + base.pow digits.length := Nat.add_lt_add_left (ih hdigits) _
        _ = (d + 1) * base.pow digits.length := (Nat.succ_mul d _).symm
        _ ≤ base * base.pow digits.length := Nat.mul_le_mul_right _ hd
        _ = base.pow (digits.length + 1) := Nat.mul_comm _ _

/-! ## Written and read -/

theorem toNat_ofNat (hn : n < base.pow width) : toNat base (ofNat base width n) = n := by
  induction width generalizing n with
  | zero =>
      have : n = 0 := by simpa using hn
      simp [ofNat, toNat, this]
  | succ width ih =>
      have hpos : 0 < base.pow width := pow_pos_of_lt hn
      rw [ofNat, toNat, length_ofNat, ih (Nat.mod_lt n hpos)]
      exact Nat.div_add_mod' n (base.pow width)

theorem ofNat_toNat (h : ∀ d ∈ digits, d < base) :
    ofNat base digits.length (toNat base digits) = digits := by
  induction digits with
  | nil => rfl
  | cons d digits ih =>
      rcases List.forall_mem_cons.1 h with ⟨-, hdigits⟩
      have hlt : toNat base digits < base.pow digits.length := toNat_lt hdigits
      have hleading : (d * base.pow digits.length + toNat base digits) / base.pow digits.length = d := by
        rw [Nat.mul_comm, Nat.mul_add_div (Nat.zero_lt_of_lt hlt), Nat.div_eq_of_lt hlt, Nat.add_zero]
      have hrest : (d * base.pow digits.length + toNat base digits) % base.pow digits.length =
          toNat base digits := by
        rw [Nat.mul_add_mod', Nat.mod_eq_of_lt hlt]
      rw [List.length_cons, toNat, ofNat, hleading, hrest, ih hdigits]

/-! ## Last digits -/

/-- The last digit of a number that fits is its remainder, the others are those of the quotient. -/
theorem ofNat_concat (hn : n < base.pow (width + 1)) :
    ofNat base (width + 1) n = ofNat base width (n / base) ++ [n % base] := by
  induction width generalizing n with
  | zero =>
      have hlt : n < base := by simpa using hn
      simp [ofNat, Nat.mod_eq_of_lt hlt]
  | succ width ih =>
      have hpow : base.pow (width + 1) = base.pow width * base := rfl
      have hleading : n / base.pow (width + 1) = n / base / base.pow width := by
        rw [hpow, Nat.mul_comm, Nat.div_div_eq_div_mul]
      have hmiddle : n % base.pow (width + 1) / base = n / base % base.pow width := by
        rw [hpow, Nat.mod_mul_left_div_self]
      have hlast : n % base.pow (width + 1) % base = n % base := by
        rw [hpow, Nat.mod_mod_of_dvd n (Nat.dvd_mul_left base _)]
      calc ofNat base (width + 2) n
          = n / base.pow (width + 1) :: ofNat base (width + 1) (n % base.pow (width + 1)) := rfl
        _ = n / base / base.pow width :: (ofNat base width (n / base % base.pow width) ++ [n % base]) := by
          rw [ih (Nat.mod_lt n (pow_pos_of_lt hn)), hleading, hmiddle, hlast]
        _ = ofNat base (width + 1) (n / base) ++ [n % base] := rfl

/-! ## Order -/

/-- Numbers compare by their quotients, and by their remainders where these are equal. -/
theorem lt_iff_div_mod (p : Nat) : m < n ↔ m / p < n / p ∨ m / p = n / p ∧ m % p < n % p := by
  constructor
  · intro h
    rcases Nat.lt_or_eq_of_le (Nat.div_le_div_right (Nat.le_of_lt h)) with hlt | heq
    · exact .inl hlt
    · refine .inr ⟨heq, ?_⟩
      rw [← Nat.div_add_mod m p, ← Nat.div_add_mod n p, heq] at h
      exact Nat.lt_of_add_lt_add_left h
  · rintro (hlt | ⟨heq, hlt⟩)
    · exact Nat.lt_of_not_le fun hle => Nat.not_le_of_lt hlt (Nat.div_le_div_right hle)
    · rw [← Nat.div_add_mod m p, ← Nat.div_add_mod n p, heq]
      exact Nat.add_lt_add_left hlt _

theorem ofNat_lt_ofNat_iff (hm : m < base.pow width) (hn : n < base.pow width) :
    ofNat base width m < ofNat base width n ↔ m < n := by
  induction width generalizing m n with
  | zero =>
      have hmzero : m = 0 := Nat.lt_one_iff.1 hm
      have hnzero : n = 0 := Nat.lt_one_iff.1 hn
      simp [ofNat, hmzero, hnzero]
  | succ width ih =>
      have hpos : 0 < base.pow width := pow_pos_of_lt hm
      rw [ofNat, ofNat, List.cons_lt_cons_iff, ih (Nat.mod_lt m hpos) (Nat.mod_lt n hpos),
        ← lt_iff_div_mod]

end Digits
end TrackOverlay
