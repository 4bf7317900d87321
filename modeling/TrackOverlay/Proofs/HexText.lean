import TrackOverlay.Proofs.Partition

/-!
# HexText — identities in hexadecimal

Labels and people name an object by the text of its identity, groups are ordered by its number.  This
file shows that the two agree:

* `Identity.ofHexText?_eq_some_iff` — the text reads as the identity, and no other text does;
* `Identity.hexText_lt_iff` — texts stand in the order of their identities.

The order of texts is that of their code points, first difference first.  It is the order of the numbers
because all texts have the same length and because the characters of greater digits have greater code
points.
-/

namespace TrackOverlay

namespace Identity

variable {a b : Identity}

/-! ## Characters of digits -/

theorem hexDigit?_digitChar : ∀ d < 16, hexDigit? (Nat.digitChar d) = some d := by decide

theorem digitChar_mem : ∀ d < 16, Nat.digitChar d ∈ "0123456789abcdef".toList := by decide

theorem digitChar_lt_iff :
    ∀ x < 16, ∀ y < 16, (Nat.digitChar x < Nat.digitChar y ↔ x < y) := by decide

theorem digitChar_inj : ∀ x < 16, ∀ y < 16, (Nat.digitChar x = Nat.digitChar y ↔ x = y) := by decide

/-- Characters of digits stand in the order of the digits. -/
theorem map_digitChar_lt_iff {xs ys : List Nat} (hxs : ∀ d ∈ xs, d < 16) (hys : ∀ d ∈ ys, d < 16) :
    xs.map Nat.digitChar < ys.map Nat.digitChar ↔ xs < ys := by
  induction xs generalizing ys with
  | nil =>
      cases ys with
      | nil => simp
      | cons y ys => simp
  | cons x xs ih =>
      cases ys with
      | nil => simp
      | cons y ys =>
          rcases List.forall_mem_cons.1 hxs with ⟨hx, hxs'⟩
          rcases List.forall_mem_cons.1 hys with ⟨hy, hys'⟩
          rw [List.map_cons, List.map_cons, List.cons_lt_cons_iff, List.cons_lt_cons_iff,
            digitChar_lt_iff x hx y hy, digitChar_inj x hx y hy, ih hxs' hys']

theorem toNat_digitChar_letter :
    ∀ d < 6, (Nat.digitChar (d + 10)).toNat = 'a'.toNat + d := by decide

theorem eq_digitChar_of_hexDigit? {c : Char} {d : Nat} (h : hexDigit? c = some d) :
    d < 16 ∧ c = Nat.digitChar d := by
  rw [hexDigit?] at h
  split at h
  · next hdecimal =>
      have hlow : '0'.toNat ≤ c.toNat := hdecimal.1
      have hhigh : c.toNat ≤ '9'.toNat := hdecimal.2
      cases h
      have hd : c.toNat - '0'.toNat < 10 := Nat.sub_lt_left_of_lt_add hlow (Nat.lt_succ_of_le hhigh)
      refine ⟨Nat.lt_trans hd (by decide), Char.toNat_inj.1 ?_⟩
      rw [Nat.toNat_digitChar_of_lt_ten hd]
      exact (Nat.add_sub_cancel' hlow).symm
  · split at h
    · next hletter =>
        have hlow : 'a'.toNat ≤ c.toNat := hletter.1
        have hhigh : c.toNat ≤ 'f'.toNat := hletter.2
        cases h
        have hd : c.toNat - 'a'.toNat < 6 := Nat.sub_lt_left_of_lt_add hlow (Nat.lt_succ_of_le hhigh)
        refine ⟨Nat.add_lt_add_right hd 10, Char.toNat_inj.1 ?_⟩
        rw [toNat_digitChar_letter _ hd]
        exact (Nat.add_sub_cancel' hlow).symm
    · cases h

theorem hexDigit?_eq_some_iff {c : Char} {d : Nat} :
    hexDigit? c = some d ↔ d < 16 ∧ c = Nat.digitChar d := by
  constructor
  · exact eq_digitChar_of_hexDigit?
  · rintro ⟨hd, rfl⟩
    exact hexDigit?_digitChar d hd

/-- A text reads as the digits whose characters it consists of. -/
theorem mapM_hexDigit?_eq_some_iff {cs : List Char} {digits : List Nat} :
    cs.mapM hexDigit? = some digits ↔ (∀ d ∈ digits, d < 16) ∧ cs = digits.map Nat.digitChar := by
  induction cs generalizing digits with
  | nil =>
      rw [List.mapM_nil]
      constructor
      · rintro ⟨⟩
        exact ⟨List.forall_mem_nil _, rfl⟩
      · rintro ⟨-, hnil⟩
        rw [List.map_eq_nil_iff.1 hnil.symm]
        rfl
  | cons c cs ih =>
      simp only [List.mapM_cons, Option.bind_eq_bind, Option.bind_eq_some_iff, hexDigit?_eq_some_iff, ih]
      constructor
      · rintro ⟨d, ⟨hd, rfl⟩, rest, ⟨hrest, rfl⟩, hdigits⟩
        cases hdigits
        exact ⟨List.forall_mem_cons.2 ⟨hd, hrest⟩, rfl⟩
      · rintro ⟨hdigits, hchars⟩
        rcases List.map_eq_cons_iff.1 hchars.symm with ⟨d, rest, rfl, rfl, rfl⟩
        rcases List.forall_mem_cons.1 hdigits with ⟨hd, hrest⟩
        exact ⟨d, ⟨hd, rfl⟩, rest, ⟨hrest, rfl⟩, rfl⟩

/-! ## Texts -/

/-- The thirty-two digits of an identity. -/
def hexDigits (a : Identity) : List Nat := Digits.ofNat 16 32 a.value

theorem toList_hexText (a : Identity) : a.hexText.toList = a.hexDigits.map Nat.digitChar :=
  String.toList_ofList

theorem length_hexDigits (a : Identity) : a.hexDigits.length = 32 := Digits.length_ofNat 16 32 a.value

theorem hexDigits_lt (a : Identity) : ∀ d ∈ a.hexDigits, d < 16 :=
  fun _ => Digits.lt_of_mem_ofNat a.value_lt

theorem toNat_hexDigits (a : Identity) : Digits.toNat 16 a.hexDigits = a.value :=
  Digits.toNat_ofNat a.value_lt

theorem hexDigits_lt_iff : a.hexDigits < b.hexDigits ↔ a < b := by
  rw [lt_def]
  exact Digits.ofNat_lt_ofNat_iff a.value_lt b.value_lt

theorem length_hexText (a : Identity) : a.hexText.length = 32 := by
  rw [← String.length_toList, toList_hexText, List.length_map, length_hexDigits]

theorem mem_alphabet_of_mem_hexText {c : Char} (hc : c ∈ a.hexText.toList) :
    c ∈ "0123456789abcdef".toList := by
  rw [toList_hexText] at hc
  rcases List.mem_map.1 hc with ⟨d, hd, rfl⟩
  exact digitChar_mem d (hexDigits_lt a d hd)

theorem mapM_hexText (a : Identity) : a.hexText.toList.mapM hexDigit? = some a.hexDigits :=
  mapM_hexDigit?_eq_some_iff.2 ⟨hexDigits_lt a, toList_hexText a⟩

/-- A text reads as the identity whose text it is; every other text is refused. -/
theorem ofHexText?_eq_some_iff {s : String} : ofHexText? s = some a ↔ s = a.hexText := by
  constructor
  · intro h
    rw [ofHexText?] at h
    split at h
    · next hlength =>
        rcases Option.map_eq_some_iff.1 h with ⟨digits, hdigits, rfl⟩
        rcases mapM_hexDigit?_eq_some_iff.1 hdigits with ⟨hlt, hchars⟩
        have hwidth : digits.length = 32 := by
          rw [← List.length_map Nat.digitChar, ← hchars, String.length_toList, hlength]
        have hfits : Digits.toNat 16 digits < Nat.pow 16 32 := by
          rw [← hwidth]
          exact Digits.toNat_lt hlt
        -- thirty-two digits take 128 bits, so nothing is cut off
        have hvalue : (ofNat (Digits.toNat 16 digits)).value = Digits.toNat 16 digits :=
          Nat.mod_eq_of_lt hfits
        rw [hexText, hvalue, ← hwidth, Digits.ofNat_toNat hlt, ← hchars, String.ofList_toList]
    · cases h
  · rintro rfl
    rw [ofHexText?, if_pos (length_hexText a), mapM_hexText, Option.map_some, toNat_hexDigits,
      ofNat_value]

theorem hexText_lt_iff : a.hexText < b.hexText ↔ a < b := by
  rw [String.lt_iff, toList_hexText, toList_hexText,
    map_digitChar_lt_iff (hexDigits_lt a) (hexDigits_lt b), hexDigits_lt_iff]

/-! ## Groups -/

/-- The groups of snapshots have one text each, and these texts ascend. -/
theorem ascending_hexText_groups (xs : List Snapshot) :
    ∃ texts : List String, texts.Pairwise (fun s t => s < t) ∧
      List.Forall₂ (fun text group => group ≠ [] ∧ ∀ s ∈ group, s.identity.hexText = text) texts
        (Snapshot.groups xs) := by
  refine ⟨(Grouping.identities Snapshot.identity xs).map hexText, ?_, ?_⟩
  · refine List.pairwise_map.2 ((Grouping.ascending_identities Snapshot.identity xs).imp ?_)
    exact hexText_lt_iff.2
  · rw [Snapshot.groups, Grouping.groups_eq_map, List.forall₂_map_left_iff, List.forall₂_map_right_iff,
      List.forall₂_same]
    intro id hid
    refine ⟨?_, fun s hs => by rw [Grouping.identity_eq_of_mem_filter hs]⟩
    rcases Grouping.mem_identities_iff.1 hid with ⟨s, hs, rfl⟩
    exact List.ne_nil_of_mem (List.mem_filter.2 ⟨hs, decide_eq_true rfl⟩)

/-- The text of an identity consists of thirty-two lower-case hexadecimal digits, which stand for its
number; it is the only text that reads as the identity.  Texts compare, code point by code point, as the
identities do, so the groups of snapshots ascend by text. -/
theorem hexText_keeps_order (a b : Identity) :
    (a.hexText.length = 32 ∧ ∀ c ∈ a.hexText.toList, c ∈ "0123456789abcdef".toList) ∧
      ((a.hexText.toList.mapM hexDigit?).map (Digits.toNat 16) = some a.value ∧
        ∀ s, ofHexText? s = some a ↔ s = a.hexText) ∧
      (a.value < b.value ↔ a.hexText < b.hexText) ∧
      ∀ xs : List Snapshot, ∃ texts : List String, texts.Pairwise (fun s t => s < t) ∧
        List.Forall₂ (fun text group => group ≠ [] ∧ ∀ s ∈ group, s.identity.hexText = text) texts
          (Snapshot.groups xs) := by
  refine ⟨⟨length_hexText a, fun c => mem_alphabet_of_mem_hexText⟩, ⟨?_, fun s => ofHexText?_eq_some_iff⟩,
    lt_def.symm.trans hexText_lt_iff.symm, ascending_hexText_groups⟩
  rw [mapM_hexText, Option.map_some, toNat_hexDigits]

/-- The lesser of two neighbours has the greater digits behind the first difference, a digit 9 before a
letter. -/
theorem hexText_keeps_order_carried :
    let a : Identity := .ofNat (10 * Nat.pow 2 64 - 1)
    let b : Identity := .ofNat (10 * Nat.pow 2 64)
    a.hexText = "0000000000000009ffffffffffffffff" ∧ 'f' ∈ "0123456789abcdef".toList ∧
      ofHexText? "0000000000000009ffffffffffffffff" = some a ∧
      a.value < b.value ∧ "0000000000000009ffffffffffffffff" < "000000000000000a0000000000000000" := by
  intro a b
  have ha : a.hexText = "0000000000000009ffffffffffffffff" := by decide
  have hb : b.hexText = "000000000000000a0000000000000000" := by decide
  have hlt : a.value < b.value := by decide
  have hmem : 'f' ∈ a.hexText.toList := by
    rw [ha]
    decide
  rcases hexText_keeps_order a b with ⟨⟨-, halphabet⟩, ⟨-, hread⟩, horder, -⟩
  refine ⟨ha, halphabet _ hmem, (hread _).2 ha.symm, hlt, ?_⟩
  rw [← ha, ← hb]
  exact horder.1 hlt

end Identity
end TrackOverlay
