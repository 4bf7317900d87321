import Mathlib
import TrackOverlay.Proofs.Drawability
import TrackOverlay.Proofs.MarkerKeys

/-!
# LabelReading — a label tells what it was made of

A label is text for people, but nothing in it is lost: it can be taken apart at its line breaks, its
middle line at the colons, and each token before the number at its end.  This file defines

* `Label.pieces`, `Label.cut` and `Label.read?` — taking apart a text at a separator, a token before its
  number, and a label into its lines and tokens;
* `Label.Content` — the total, the channels with their percentages, and the leading characters;
* `Canvas.LabelSays` — what the label of a snapshot has to say;
* `Canvas.Legible` — no name and no identity holds what the parts are told apart by.

Legible labels are read back part by part, so they are equal exactly if they say the same
(`Canvas.label_reads_back`).
-/

namespace TrackOverlay
namespace Label

/-! ## Taking texts apart -/

/-- The pieces of a text between the occurrences of a separator. -/
def pieces (separator : Char) (text : String) : List String :=
  (text.toList.splitOn separator).map String.ofList

/-- Whether a character may stand in a decimal number. -/
def inNumber (x : Char) : Bool := x.isDigit || x == '-'

/-- A token without the longest number at its end, and that number. -/
def cut (token : String) : String × Option Int :=
  (String.ofList (token.toList.rdropWhile inNumber),
    (String.ofList (token.toList.rtakeWhile inNumber)).toInt?)

/-- The first line of a label, the parts of the tokens in the middle, and the last line. -/
def read? (text : String) : Option (String × List (String × Option Int) × String) :=
  match pieces '\n' text with
  | [first, last] => some (first, [], last)
  | [first, middle, last] => some (first, (pieces ':' middle).map cut, last)
  | _ => none

theorem pieces_intercalate {separator : Char} {joint : String} {parts : List String}
    (hjoint : joint.toList = [separator]) (hparts : ∀ part ∈ parts, separator ∉ part.toList)
    (hne : parts ≠ []) : pieces separator (joint.intercalate parts) = parts := by
  have hsplit : ([separator].intercalate (parts.map String.toList)).splitOn separator =
      parts.map String.toList := by
    refine List.splitOn_intercalate separator ?_ (by simpa using hne)
    simpa using hparts
  rw [pieces, String.toList_intercalate, hjoint, hsplit, List.map_map]
  simp [Function.comp_def]

theorem not_mem_intercalate {x : Char} {joint : String} {parts : List String}
    (hjoint : x ∉ joint.toList) (hparts : ∀ part ∈ parts, x ∉ part.toList) :
    x ∉ (joint.intercalate parts).toList := by
  induction parts with
  | nil => simp
  | cons part rest ih =>
      have hpart := hparts part List.mem_cons_self
      have hrest := ih fun other hother => hparts other (List.mem_cons_of_mem _ hother)
      cases rest with
      | nil => simpa using hpart
      | cons next rest =>
          rw [String.intercalate_cons_cons, String.toList_append, String.toList_append]
          simp only [List.mem_append, not_or]
          exact ⟨⟨hpart, hjoint⟩, hrest⟩

theorem inNumber_of_mem_toString {n : Int} {x : Char} (h : x ∈ (toString n).toList) :
    inNumber x = true := by
  have hdigit : ∀ m : Nat, x ∈ m.repr.toList → inNumber x = true := by
    intro m hm
    rw [Nat.toList_repr] at hm
    simp [inNumber, Nat.isDigit_of_mem_toDigits (by decide) (by decide) hm]
  have hrepr : toString n = n.repr := rfl
  rw [hrepr, Int.repr_eq_if] at h
  split at h
  · exact hdigit _ h
  · rw [String.toList_append, List.mem_append] at h
    rcases h with hsign | hm
    · obtain rfl : x = '-' := by simpa using hsign
      rfl
    · exact hdigit _ hm

theorem not_mem_append_toString {name : String} {n : Int} {x : Char} (hnumber : inNumber x = false)
    (hname : x ∉ name.toList) : x ∉ (name ++ toString n).toList := by
  rw [String.toList_append, List.mem_append, not_or]
  refine ⟨hname, fun hx => ?_⟩
  rw [inNumber_of_mem_toString hx] at hnumber
  cases hnumber

/-- A number is cut off again if the name before it does not end like one. -/
theorem cut_append_toString {name : String} {n : Int}
    (hname : ∀ x ∈ name.toList.getLast?, inNumber x = false) :
    cut (name ++ toString n) = (name, some n) := by
  have hnumber : ∀ x ∈ (toString n).toList.reverse, inNumber x = true := fun x hx =>
    inNumber_of_mem_toString (List.mem_reverse.1 hx)
  have hstop : ∀ h : name.toList ≠ [], ¬ inNumber (name.toList.getLast h) = true := by
    intro h
    simp [hname _ (List.getLast?_eq_some_getLast h)]
  -- from the end, the number is passed and then nothing more
  have htake : (name ++ toString n).toList.rtakeWhile inNumber = (toString n).toList := by
    have hname : name.toList.rtakeWhile inNumber = [] := List.rtakeWhile_eq_nil_iff.2 hstop
    rw [List.rtakeWhile, List.reverse_eq_nil_iff] at hname
    rw [String.toList_append, List.rtakeWhile, List.reverse_append,
      List.takeWhile_append_of_pos hnumber, hname, List.append_nil, List.reverse_reverse]
  have hdrop : (name ++ toString n).toList.rdropWhile inNumber = name.toList := by
    rw [String.toList_append, List.rdropWhile, List.reverse_append,
      List.dropWhile_append_of_pos hnumber]
    exact List.rdropWhile_eq_self_iff.2 hstop
  rw [cut, htake, hdrop, String.ofList_toList, String.ofList_toList]
  exact congrArg (Prod.mk name) (Int.toInt?_repr n)

/-! ## Contents -/

/-- What a label has to say: the total percentage, the short names of channels with their percentages,
and the leading characters of the identity text. -/
@[ext] structure Content where
  total : Int
  shown : List (String × Int)
  identity : String
  deriving DecidableEq

namespace Content

variable {k other : Content}

def tokens (k : Content) : List String := k.shown.map fun entry => entry.1 ++ toString entry.2

def text (k : Content) : String :=
  String.intercalate "\n" (Canvas.labelLines k.total k.tokens k.identity)

/-- The content stands in a text: its parts are found at the line breaks, the colons and the numbers at
the end of tokens. -/
structure StandsIn (k : Content) (text : String) : Prop where
  lines_of_shown : k.shown ≠ [] → ∃ middle,
    pieces '\n' text = ["total:" ++ toString k.total, middle, k.identity] ∧
      (pieces ':' middle).map cut = k.shown.map fun entry => (entry.1, some entry.2)
  lines_of_none : k.shown = [] → pieces '\n' text = ["total:" ++ toString k.total, k.identity]

/-- Content whose parts hold nothing that they are told apart by. -/
structure Legible (k : Content) : Prop where
  no_colon : ∀ entry ∈ k.shown, ':' ∉ entry.1.toList
  no_break : ∀ entry ∈ k.shown, '\n' ∉ entry.1.toList
  no_number : ∀ entry ∈ k.shown, ∀ x ∈ entry.1.toList.getLast?, inNumber x = false
  identity : '\n' ∉ k.identity.toList

theorem StandsIn.read?_eq {text : String} (h : k.StandsIn text) :
    read? text = some ("total:" ++ toString k.total,
      k.shown.map fun entry => (entry.1, some entry.2), k.identity) := by
  by_cases hshown : k.shown = []
  · simp [read?, h.lines_of_none hshown, hshown]
  · rcases h.lines_of_shown hshown with ⟨middle, hlines, hcut⟩
    simp [read?, hlines, hcut]

theorem total_injective {a b : Int} (h : "total:" ++ toString a = "total:" ++ toString b) : a = b := by
  have hnumber : (toString a).toList = (toString b).toList := by
    simpa [String.toList_append] using congrArg String.toList h
  exact Int.repr_injective (String.toList_inj.1 hnumber)

theorem shown_injective : Function.Injective fun shown : List (String × Int) =>
    shown.map fun entry => (entry.1, some entry.2) := by
  refine List.map_injective_iff.2 ?_
  rintro ⟨name, p⟩ ⟨name', p'⟩ h
  cases h
  rfl

/-- Only one content stands in a text. -/
theorem StandsIn.unique {text : String} (h : k.StandsIn text) (hother : other.StandsIn text) :
    k = other := by
  have hread := Option.some.inj (h.read?_eq.symm.trans hother.read?_eq)
  injection hread with htotal hrest
  injection hrest with hshown hidentity
  exact Content.ext (total_injective htotal) (shown_injective hshown) hidentity

theorem not_mem_tokens {x : Char} (hnumber : inNumber x = false)
    (hnames : ∀ entry ∈ k.shown, x ∉ entry.1.toList) : ∀ token ∈ k.tokens, x ∉ token.toList := by
  intro token htoken
  rcases List.mem_map.1 htoken with ⟨entry, hentry, rfl⟩
  exact not_mem_append_toString hnumber (hnames entry hentry)

theorem Legible.map_cut_tokens (h : k.Legible) :
    k.tokens.map cut = k.shown.map fun entry => (entry.1, some entry.2) := by
  rw [tokens, List.map_map]
  exact List.map_congr_left fun entry hentry => cut_append_toString (h.no_number entry hentry)

/-- Legible content stands in its own text. -/
theorem Legible.standsIn (h : k.Legible) : k.StandsIn k.text := by
  -- no line holds a line break, and no token a colon
  have hfirst : '\n' ∉ ("total:" ++ toString k.total).toList :=
    not_mem_append_toString rfl (by decide)
  constructor
  · intro hshown
    have hne : k.tokens ≠ [] := by simpa [tokens] using hshown
    have hlines : Canvas.labelLines k.total k.tokens k.identity =
        ["total:" ++ toString k.total, String.intercalate ":" k.tokens, k.identity] := by
      simp [Canvas.labelLines, hne]
    have hmiddle : '\n' ∉ (String.intercalate ":" k.tokens).toList :=
      not_mem_intercalate (by decide) (not_mem_tokens rfl h.no_break)
    refine ⟨String.intercalate ":" k.tokens, ?_, ?_⟩
    · rw [text, hlines]
      refine pieces_intercalate rfl ?_ (List.cons_ne_nil _ _)
      simp only [List.forall_mem_cons]
      exact ⟨hfirst, hmiddle, h.identity, List.forall_mem_nil _⟩
    · rw [pieces_intercalate rfl (not_mem_tokens rfl h.no_colon) hne, h.map_cut_tokens]
  · intro hshown
    have hlines : Canvas.labelLines k.total k.tokens k.identity =
        ["total:" ++ toString k.total, k.identity] := by
      simp [Canvas.labelLines, tokens, hshown]
    rw [text, hlines]
    refine pieces_intercalate rfl ?_ (List.cons_ne_nil _ _)
    simp only [List.forall_mem_cons]
    exact ⟨hfirst, h.identity, List.forall_mem_nil _⟩

end Content

end Label

/-! ## Labels of snapshots -/

open Label Outcome

namespace Canvas

variable {c d : Canvas} {s t : Snapshot} {text other : String} {k : Content}

/-- A channel with a probability is shown as its short name and its percentage. -/
def ShownAs (entry : Channel × Float) (part : String × Int) : Prop :=
  part.1 = entry.1.shortName ∧ (Binary64.ofFloat (entry.2 * 100.0)).integerPart = .ok part.2

/-- The content of a label: the percentage of the total, in channel order the channels that do not lie
below the threshold, and the leading characters of the identity text. -/
structure LabelSays (c : Canvas) (s : Snapshot) (k : Content) : Prop where
  total : (Binary64.ofFloat (s.total * 100.0)).integerPart = .ok k.total
  shown : List.Forall₂ ShownAs
    ((c.channels.zip s.existence).filter fun entry =>
      !decide (entry.2 < c.parameters.probabilityThreshold)) k.shown
  identity : k.identity = String.ofList (s.identityText.toList.take c.parameters.prefixLength.toNat)

/-- Neither a short name nor the shown identity holds what the parts of a label are told apart by. -/
structure Legible (c : Canvas) (s : Snapshot) : Prop where
  no_colon : ∀ channel ∈ c.channels, ':' ∉ channel.shortName.toList
  no_break : ∀ channel ∈ c.channels, '\n' ∉ channel.shortName.toList
  no_number : ∀ channel ∈ c.channels, ∀ x ∈ channel.shortName.toList.getLast?,
    x.isDigit = false ∧ x ≠ '-'
  identity : '\n' ∉ s.identityText.toList.take c.parameters.prefixLength.toNat

theorem percent_eq_ok_iff {p : Float} {n : Int} :
    percent p = .ok n ↔ (Binary64.ofFloat (p * 100.0)).integerPart = .ok n := by
  unfold percent
  cases (Binary64.ofFloat (p * 100.0)).integerPart with
  | error reason => simp [Except.mapError]
  | ok m => simp [Except.mapError]

theorem token_eq_ok_iff {entry : Channel × Float} {written : String} :
    token entry = .ok written ↔ ∃ part, ShownAs entry part ∧ written = part.1 ++ toString part.2 := by
  rw [token, bind_eq_ok_iff]
  constructor
  · rintro ⟨p, hp, hwritten⟩
    exact ⟨(entry.1.shortName, p), ⟨rfl, percent_eq_ok_iff.1 hp⟩, (Except.ok.inj hwritten).symm⟩
  · rintro ⟨part, ⟨hname, hp⟩, rfl⟩
    exact ⟨part.2, percent_eq_ok_iff.2 hp, by rw [hname]; rfl⟩

/-- Tokens are written from short names and percentages. -/
theorem exists_parts_of_tokens {entries : List (Channel × Float)} {tokens : List String}
    (h : List.Forall₂ (fun entry written => token entry = .ok written) entries tokens) :
    ∃ parts, List.Forall₂ ShownAs entries parts ∧
      tokens = parts.map fun part => part.1 ++ toString part.2 := by
  induction h with
  | nil => exact ⟨[], .nil, rfl⟩
  | cons hwritten _ ih =>
      rcases ih with ⟨parts, hparts, rfl⟩
      rcases token_eq_ok_iff.1 hwritten with ⟨part, hpart, rfl⟩
      exact ⟨part :: parts, .cons hpart hparts, rfl⟩

/-- A label is the text of what it says. -/
theorem exists_says_of_label (h : c.label s = .ok text) :
    s.existence.length = c.channelCount ∧ ∃ k, c.LabelSays s k ∧ text = k.text := by
  unfold label at h
  split at h
  · simp at h
  · next hlength =>
      rcases bind_eq_ok_iff.1 h with ⟨total, htotal, h⟩
      rcases bind_eq_ok_iff.1 h with ⟨tokens, htokens, h⟩
      rcases exists_parts_of_tokens (mapM_eq_ok_iff.1 htokens) with ⟨parts, hparts, rfl⟩
      have hsaid : c.LabelSays s ⟨total, parts, c.shownIdentity s⟩ :=
        ⟨percent_eq_ok_iff.1 htotal, hparts, rfl⟩
      exact ⟨not_not.1 hlength, _, hsaid, (Except.ok.inj h).symm⟩

theorem LabelSays.unique {other : Content} (h : c.LabelSays s k) (hother : c.LabelSays s other) :
    k = other := by
  refine Content.ext ?_ ?_ (h.identity.trans hother.identity.symm)
  · exact Except.ok.inj (h.total.symm.trans hother.total)
  · refine List.right_unique_forall₂' ?_ h.shown hother.shown
    rintro entry ⟨name, p⟩ ⟨name', p'⟩ ⟨hname, hp⟩ ⟨hname', hp'⟩
    exact Prod.ext (hname.trans hname'.symm) (Except.ok.inj (hp.symm.trans hp'))

/-- All names that a label shows are short names of channels. -/
theorem LabelSays.exists_channel (h : c.LabelSays s k) :
    ∀ part ∈ k.shown, ∃ channel ∈ c.channels, channel.shortName = part.1 := by
  have hnames : k.shown.map Prod.fst =
      (c.shownChannels s).map fun entry => entry.1.shortName := by
    rw [← List.forall₂_eq_eq_eq, List.forall₂_map_left_iff, List.forall₂_map_right_iff]
    exact h.shown.flip.imp fun _ _ hboth => hboth.1
  intro part hpart
  have hmem : part.1 ∈ (c.shownChannels s).map fun entry => entry.1.shortName :=
    hnames ▸ List.mem_map_of_mem hpart
  rcases List.mem_map.1 hmem with ⟨⟨channel, p⟩, hentry, hname⟩
  exact ⟨channel, (List.of_mem_zip (List.mem_filter.1 hentry).1).1, hname⟩

theorem Legible.content (h : c.Legible s) (hsaid : c.LabelSays s k) : k.Legible := by
  have hchannel := hsaid.exists_channel
  refine ⟨fun part hpart => ?_, fun part hpart => ?_, fun part hpart => ?_, ?_⟩
  · rcases hchannel part hpart with ⟨channel, hmem, hname⟩
    exact hname ▸ h.no_colon channel hmem
  · rcases hchannel part hpart with ⟨channel, hmem, hname⟩
    exact hname ▸ h.no_break channel hmem
  · rcases hchannel part hpart with ⟨channel, hmem, hname⟩
    intro x hx
    rw [← hname] at hx
    rcases h.no_number channel hmem x hx with ⟨hdigit, hsign⟩
    simp [inNumber, hdigit, hsign]
  · rw [hsaid.identity, String.toList_ofList]
    exact h.identity

theorem LabelSays.shown_eq_nil_iff (h : c.LabelSays s k)
    (hlength : s.existence.length = c.channelCount) :
    k.shown = [] ↔ ∀ p ∈ s.existence, p < c.parameters.probabilityThreshold := by
  have hlength_eq : (c.shownChannels s).length = k.shown.length := h.shown.length_eq
  have hchannels : k.shown = [] ↔ (c.shownChannels s).map Prod.snd = [] := by
    rw [← List.length_eq_zero_iff, ← hlength_eq, List.map_eq_nil_iff, List.length_eq_zero_iff]
  rw [hchannels, map_snd_shownChannels hlength, List.filter_eq_nil_iff]
  simp

/-- A legible label is read back: it has a line for the total, a line for the channels that are shown if
there are any, and a line for the identity; the middle line is a token of name and percentage for each
channel that is shown, in the order of the channels.  So legible labels are equal exactly if they say
the same. -/
theorem label_reads_back (h : c.label s = .ok text) (hlegible : c.Legible s) :
    ∃ k, c.LabelSays s k ∧
      ((∃ p ∈ s.existence, ¬ p < c.parameters.probabilityThreshold) → ∃ middle,
        pieces '\n' text = ["total:" ++ toString k.total, middle, k.identity] ∧
          (pieces ':' middle).map cut = k.shown.map fun part => (part.1, some part.2)) ∧
      ((∀ p ∈ s.existence, p < c.parameters.probabilityThreshold) →
        pieces '\n' text = ["total:" ++ toString k.total, k.identity]) ∧
      ∀ (d : Canvas) (t : Snapshot) (other : String) (k' : Content), d.label t = .ok other →
        d.Legible t → d.LabelSays t k' → (other = text ↔ k' = k) := by
  rcases exists_says_of_label h with ⟨hlength, k, hsaid, rfl⟩
  have hstands := (hlegible.content hsaid).standsIn
  refine ⟨k, hsaid, ?_, ?_, ?_⟩
  · rintro ⟨p, hp, hshown⟩
    refine hstands.lines_of_shown fun hnil => ?_
    exact hshown ((hsaid.shown_eq_nil_iff hlength).1 hnil p hp)
  · exact fun hnone => hstands.lines_of_none ((hsaid.shown_eq_nil_iff hlength).2 hnone)
  · intro d t other k' hother hlegible' hsaid'
    rcases exists_says_of_label hother with ⟨-, said, hown, rfl⟩
    obtain rfl := hown.unique hsaid'
    constructor
    · intro htext
      -- both contents stand in one text
      exact (htext ▸ (hlegible'.content hown).standsIn : said.StandsIn k.text).unique hstands
    · rintro rfl
      rfl

/-- A snapshot with a negative total, of which only the second channel is shown. -/
def faintSnapshot (total second : Float) : Snapshot :=
  { pairSnapshot 1 false with
    existence := [0.001, second]
    total := total }

theorem legible_faint (total second : Float) :
    pairCanvas.Legible (faintSnapshot total second) where
  no_colon := by decide
  no_break := by decide
  no_number := by simp [pairCanvas]
  identity := show '\n' ∉ (toString 1).toList.take 6 by decide

/-- Two snapshots whose probabilities agree up to whole percents have the same label. -/
theorem label_reads_back_faint :
    ∃ text other, pairCanvas.label (faintSnapshot (-0.29) 0.58) = .ok text ∧
      pairCanvas.Legible (faintSnapshot (-0.29) 0.58) ∧
      (∃ middle, pieces '\n' text = ["total:-28", middle, "1"] ∧
        (pieces ':' middle).map cut = [("LcLc", some 57)]) ∧
      pairCanvas.label (faintSnapshot (-0.285) 0.575) = .ok other ∧ other = text := by
  have hlabel : pairCanvas.label (faintSnapshot (-0.29) 0.58) = .ok _ := rfl
  have hother : pairCanvas.label (faintSnapshot (-0.285) 0.575) = .ok _ := rfl
  have hsaid : pairCanvas.LabelSays (faintSnapshot (-0.29) 0.58) ⟨-28, [("LcLc", 57)], "1"⟩ :=
    ⟨rfl, .cons ⟨rfl, rfl⟩ .nil, rfl⟩
  have hother_said : pairCanvas.LabelSays (faintSnapshot (-0.285) 0.575) ⟨-28, [("LcLc", 57)], "1"⟩ :=
    ⟨rfl, .cons ⟨rfl, rfl⟩ .nil, rfl⟩
  have hmem : (0.58 : Float) ∈ [0.001, 0.58] := List.mem_cons_of_mem _ List.mem_cons_self
  rcases label_reads_back hlabel (legible_faint _ _) with ⟨k, hk, hthree, -, hequal⟩
  obtain rfl := hk.unique hsaid
  exact ⟨_, _, hlabel, legible_faint _ _, hthree ⟨0.58, hmem, by decide⟩, hother,
    (hequal _ _ _ _ hother (legible_faint _ _) hother_said).2 rfl⟩

end Canvas
end TrackOverlay
