import Mathlib.Data.Nat.Bitwise
import TrackOverlay.Identity.MarkerId

/-!
# MarkerHash — the hash behind the numbers of markers

The hash of an identity adds unbounded numbers and reduces each sum once.  This file computes it on words
of 32 bits instead, where every shift and every sum drops what does not fit:

* `Identity.mixWord` and `Identity.wordHash` — a round of the hash, and the hash, on words.

Both hashes pass through the same seeds, so a marker number is the word read as a signed number
(`Identity.markerId_reads_word`).  A round takes different bytes to different seeds, so identities that
differ in their last byte only have different numbers (`Identity.neighbours_numbered_apart`).
-/

namespace TrackOverlay

namespace Identity

variable {a b : Identity}

/-! ## Rounds on words -/

/-- One round of the hash on a word: shifts and sums drop what does not fit into 32 bits. -/
def mixWord (seed : BitVec 32) (byte : Nat) : BitVec 32 :=
  seed ^^^ (BitVec.ofNat 32 byte + 0x9E3779B9#32 + (seed <<< 6) + (seed >>> 2))

/-- The hash of the identity bytes, computed on words. -/
def wordHash (a : Identity) : BitVec 32 := a.bytes.foldl mixWord 0

/-- Reducing the unbounded sum of a round once loses nothing. -/
theorem toNat_wordSum (seed : BitVec 32) (byte constant : Nat) :
    (BitVec.ofNat 32 byte + BitVec.ofNat 32 constant + (seed <<< 6) + (seed >>> 2)).toNat =
      (byte + constant + (seed.toNat <<< 6) + (seed.toNat >>> 2)) % 4294967296 := by
  simp only [BitVec.toNat_add, BitVec.toNat_ofNat, BitVec.toNat_shiftLeft, BitVec.toNat_ushiftRight,
    Nat.reducePow, Nat.add_mod_mod, Nat.mod_add_mod]

theorem toNat_mixWord (seed : BitVec 32) (byte : Nat) :
    (mixWord seed byte).toNat = mix seed.toNat byte := by
  have hconstant : 0x9E3779B9#32 = BitVec.ofNat 32 goldenRatio := rfl
  rw [mixWord, hconstant, BitVec.toNat_xor, toNat_wordSum]
  rfl

/-- Both hashes have the same seed after any bytes. -/
theorem toNat_foldl_mixWord (bytes : List Nat) (seed : BitVec 32) :
    (bytes.foldl mixWord seed).toNat = bytes.foldl mix seed.toNat := by
  induction bytes generalizing seed with
  | nil => rfl
  | cons byte bytes ih => rw [List.foldl_cons, List.foldl_cons, ih, toNat_mixWord]

theorem toNat_wordHash (a : Identity) : a.wordHash.toNat = a.hash := toNat_foldl_mixWord a.bytes 0

theorem signed32_toNat (word : BitVec 32) : signed32 word.toNat = word.toInt := by
  have hhalf : Nat.pow 2 31 = 2147483648 := rfl
  have hfull : Nat.pow 2 32 = 4294967296 := rfl
  rw [signed32, BitVec.toInt_eq_toNat_cond, hhalf, hfull]
  split
  · next hlow => rw [if_pos (by omega)]
  · next hhigh => rw [if_neg (by omega)]

theorem markerId_eq_toInt (a : Identity) : a.markerId = a.wordHash.toInt := by
  rw [markerId, ← toNat_wordHash, signed32_toNat]

/-- The bytes of an identity are its digits to the base 256, most significant first. -/
theorem toNat_bytes (a : Identity) : Digits.toNat 256 a.bytes = a.value :=
  Digits.toNat_ofNat a.value_lt

/-- A marker number is a signed 32-bit number, namely the hash of the sixteen bytes on words, read in two's
complement.  On the way there the unbounded seed is always a word, and the one that the hash on words
has. -/
theorem markerId_reads_word (a : Identity) :
    (a.bytes.length = 16 ∧ (∀ byte ∈ a.bytes, byte < 256) ∧ Digits.toNat 256 a.bytes = a.value) ∧
      (-Nat.pow 2 31 ≤ a.markerId ∧ a.markerId < Nat.pow 2 31) ∧
      a.markerId = a.wordHash.toInt ∧
      ∀ count, (a.bytes.take count).foldl mix 0 < Nat.pow 2 32 ∧
        (a.bytes.take count).foldl mix 0 = ((a.bytes.take count).foldl mixWord 0).toNat := by
  refine ⟨⟨Digits.length_ofNat 256 16 a.value, ?_, toNat_bytes a⟩, ?_, markerId_eq_toInt a, ?_⟩
  · intro byte hbyte
    exact Digits.lt_of_mem_ofNat a.value_lt hbyte
  · rw [markerId_eq_toInt]
    exact ⟨BitVec.le_toInt a.wordHash, BitVec.toInt_lt⟩
  · intro count
    have hseed : ((a.bytes.take count).foldl mixWord 0).toNat = (a.bytes.take count).foldl mix 0 :=
      toNat_foldl_mixWord _ 0
    exact ⟨hseed ▸ BitVec.isLt _, hseed.symm⟩

example : (wordHash (.ofNat 1)).toInt = -729478740 := by decide

/-! ## Neighbours -/

/-- From any seed, different bytes lead to different seeds. -/
theorem mix_injective {seed x y : Nat} (hx : x < 256) (hy : y < 256) (h : mix seed x = mix seed y) :
    x = y := by
  have hpow : Nat.pow 2 32 = 4294967296 := rfl
  rw [mix, mix, Nat.xor_right_inj, hpow] at h
  -- both sums have the same shifts of the seed
  generalize seed <<< 6 = high at h
  generalize seed >>> 2 = low at h
  omega

theorem bytes_eq_concat (a : Identity) :
    a.bytes = Digits.ofNat 256 15 (a.value / 256) ++ [a.value % 256] :=
  Digits.ofNat_concat a.value_lt

theorem take_bytes (a : Identity) : a.bytes.take 15 = Digits.ofNat 256 15 (a.value / 256) := by
  rw [bytes_eq_concat]
  exact List.take_left' (Digits.length_ofNat 256 15 _)

theorem div_eq_of_take_bytes (h : a.bytes.take 15 = b.bytes.take 15) :
    a.value / 256 = b.value / 256 := by
  have hfits (c : Identity) : c.value / 256 < Nat.pow 256 15 :=
    Nat.div_lt_of_lt_mul c.value_lt
  rw [take_bytes, take_bytes] at h
  rw [← Digits.toNat_ofNat (hfits a), h, Digits.toNat_ofNat (hfits b)]

/-- The last round takes in the last byte; the seed before it is that of the other fifteen. -/
theorem hash_eq_mix (a : Identity) :
    a.hash = mix ((Digits.ofNat 256 15 (a.value / 256)).foldl mix 0) (a.value % 256) := by
  rw [hash, bytes_eq_concat, List.foldl_append, List.foldl_cons, List.foldl_nil]

theorem eq_of_markerId_eq (hfront : a.value / 256 = b.value / 256) (hid : a.markerId = b.markerId) :
    a = b := by
  rw [markerId_eq_toInt, markerId_eq_toInt, BitVec.toInt_inj] at hid
  have hhash : a.hash = b.hash := by rw [← toNat_wordHash, ← toNat_wordHash, hid]
  rw [hash_eq_mix, hash_eq_mix, hfront] at hhash
  have hlast : a.value % 256 = b.value % 256 :=
    mix_injective (Nat.mod_lt _ (by decide)) (Nat.mod_lt _ (by decide)) hhash
  exact Identity.ext (by omega)

/-- Identities that differ in their last byte alone have different numbers, and so have the identities of
a block of 256 that starts at a multiple of its size. -/
theorem neighbours_numbered_apart (a b : Identity) :
    (a.bytes.take 15 = b.bytes.take 15 → a.bytes[15]? ≠ b.bytes[15]? → a.markerId ≠ b.markerId) ∧
      ∀ start, 256 ∣ start → start ≤ a.value → a.value < start + 256 → start ≤ b.value →
        b.value < start + 256 → a ≠ b → a.markerId ≠ b.markerId := by
  constructor
  · intro hfront hlast hid
    have hab : a = b := eq_of_markerId_eq (div_eq_of_take_bytes hfront) hid
    exact hlast (by rw [hab])
  · intro start hstart ha ha' hb hb' hne hid
    exact hne (eq_of_markerId_eq (by omega) hid)

/-- The ends of a block, and two identities with fifteen equal bytes that are not zero. -/
theorem neighbours_numbered_apart_ends :
    let first : Identity := .ofNat 768
    let last : Identity := .ofNat 1023
    let a : Identity := .ofNat (Nat.pow 2 128 - 1)
    let b : Identity := .ofNat (Nat.pow 2 128 - 256)
    first ≠ last ∧ first.markerId ≠ last.markerId ∧
      a.bytes.take 15 = b.bytes.take 15 ∧ a.bytes[15]? ≠ b.bytes[15]? ∧ a.markerId ≠ b.markerId := by
  intro first last a b
  have hne : first ≠ last := by decide
  have hblock := (neighbours_numbered_apart first last).2 768 (by decide) (by decide) (by decide)
    (by decide) (by decide) hne
  have hfront : a.bytes.take 15 = b.bytes.take 15 := by decide
  have hlast : a.bytes[15]? ≠ b.bytes[15]? := by decide
  exact ⟨hne, hblock, hfront, hlast, (neighbours_numbered_apart a b).1 hfront hlast⟩

end Identity
end TrackOverlay
