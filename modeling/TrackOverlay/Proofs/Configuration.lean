import TrackOverlay.Channel.Entry
import TrackOverlay.Proofs.FirstFault

/-!
# Configuration — which channel configurations are loaded

An entry is refused for what it says itself, or because its index is not the position that it stands
at.  This file defines, without running the loader,

* `Entry.Describes` — a channel is the one that an entry describes at a position;
* `Entry.Fits` — the entry has all it needs and the index of its position;
* `Entry.Offends` — a refusal is the one that an entry deserves at a position.

Loading gives the channels that fitting entries describe, or the refusal that the first misfit deserves
(`Entry.load_eq_error_iff`).  An entry can be written as the channel that it describes, or as the full
mapping of that channel, without any difference for the configuration (`Entry.load_of_rewritten`).
-/

namespace TrackOverlay
namespace Channel

open Outcome

variable {position : Nat} {c : Channel} {refusal : Refusal}

/-! ## Channels -/

theorem create_eq_ok_iff {index : Int} {longName shortName : String} :
    create index longName shortName = .ok c ↔
      index = c.index ∧ longName = c.longName ∧ shortName = c.shortName := by
  constructor
  · intro h
    unfold create at h
    split at h
    · cases h
    · next hnonneg =>
        split at h
        · cases h
        · cases h
          exact ⟨(Int.toNat_of_nonneg (Int.not_lt.1 hnonneg)).symm, rfl, rfl⟩
  · rintro ⟨rfl, rfl, rfl⟩
    exact create_fields c

theorem create_eq_error_iff {index : Int} {longName shortName : String} :
    create index longName shortName = .error refusal ↔
      (index < 0 ∧ refusal = .indexNegative index) ∨
        (0 ≤ index ∧ shortName = "" ∧ refusal = .nameEmpty) := by
  unfold create
  by_cases hneg : index < 0
  · simp [hneg, Int.not_le.2 hneg, eq_comm]
  · by_cases hempty : shortName = ""
    · simp [hneg, hempty, Int.not_lt.1 hneg, eq_comm]
    · simp [hneg, hempty]

/-! ## Mappings -/

namespace Mapping

variable {m : Mapping} {n : Int}

/-- A whole number is the index of a mapping at a position: the one that its index value stands for, and
the position itself where there is none. -/
inductive Indexes (m : Mapping) (position : Nat) : Int → Prop
  | given {value : IndexValue} {n : Int} (hvalue : m.index = some value) (hread : value.read = .ok n) :
      Indexes m position n
  | leftOut (hnone : m.index = none) : Indexes m position position

/-- A refusal is the one that a mapping deserves for what it says: the name is missed first, and found
empty last. -/
inductive Deserves (m : Mapping) (position : Nat) : Refusal → Prop
  | nameMissing (hname : m.shortName = none) : Deserves m position .nameMissing
  | indexUnreadable {name : String} {value : IndexValue} {refusal : Refusal}
      (hname : m.shortName = some name) (hvalue : m.index = some value)
      (hread : value.read = .error refusal) : Deserves m position refusal
  | indexNegative {name : String} {n : Int} (hname : m.shortName = some name)
      (hindex : m.Indexes position n) (hneg : n < 0) : Deserves m position (.indexNegative n)
  | nameEmpty {n : Int} (hname : m.shortName = some "") (hindex : m.Indexes position n)
      (hnonneg : 0 ≤ n) : Deserves m position .nameEmpty

theorem readIndex_eq_ok_iff : m.readIndex (some position) = .ok n ↔ m.Indexes position n := by
  cases hvalue : m.index with
  | none =>
      simp only [readIndex, hvalue]
      constructor
      · rintro ⟨⟩
        exact .leftOut hvalue
      · rintro (⟨hgiven, -⟩ | -)
        · simp [hvalue] at hgiven
        · rfl
  | some value =>
      simp only [readIndex, hvalue]
      constructor
      · intro hread
        exact .given hvalue hread
      · rintro (⟨hgiven, hread⟩ | hnone)
        · cases hvalue.symm.trans hgiven
          exact hread
        · simp [hvalue] at hnone

theorem readIndex_eq_error_iff :
    m.readIndex (some position) = .error refusal ↔
      ∃ value, m.index = some value ∧ value.read = .error refusal := by
  cases hvalue : m.index with
  | none => simp [readIndex, hvalue]
  | some value => simp [readIndex, hvalue]

theorem toChannel_eq_ok_iff :
    m.toChannel (some position) = .ok c ↔
      m.Indexes position c.index ∧ m.shortName = some c.shortName ∧
        m.longName.or m.shortName = some c.longName := by
  cases hname : m.shortName with
  | none => simp [toChannel, hname]
  | some name =>
      have hlong : m.longName.or (some name) = some c.longName ↔
          m.longName.getD name = c.longName := by
        cases m.longName with
        | none => simp
        | some other => simp
      simp only [hlong, Option.some.injEq, ← readIndex_eq_ok_iff]
      cases hindex : m.readIndex (some position) with
      | error refusal => simp [toChannel, hname, hindex]
      | ok n =>
          simp only [toChannel, hname, hindex, create_eq_ok_iff, Except.ok.injEq]
          exact and_congr_right fun _ => and_comm

theorem toChannel_eq_error_iff :
    m.toChannel (some position) = .error refusal ↔ m.Deserves position refusal := by
  constructor
  · intro h
    cases hname : m.shortName with
    | none =>
        have hrefusal : Refusal.nameMissing = refusal := by simpa [toChannel, hname] using h
        subst hrefusal
        exact .nameMissing hname
    | some name =>
        cases hindex : m.readIndex (some position) with
        | error other =>
            have hrefusal : other = refusal := by simpa [toChannel, hname, hindex] using h
            subst hrefusal
            rcases readIndex_eq_error_iff.1 hindex with ⟨value, hvalue, hread⟩
            exact .indexUnreadable hname hvalue hread
        | ok n =>
            have hcreate : create n (m.longName.getD name) name = .error refusal := by
              simpa [toChannel, hname, hindex] using h
            have hindexes := readIndex_eq_ok_iff.1 hindex
            rcases create_eq_error_iff.1 hcreate with ⟨hneg, rfl⟩ | ⟨hnonneg, rfl, rfl⟩
            · exact .indexNegative hname hindexes hneg
            · exact .nameEmpty hname hindexes hnonneg
  · intro h
    cases h with
    | nameMissing hname => simp [toChannel, hname]
    | indexUnreadable hname hvalue hread =>
        have hindex : m.readIndex (some position) = .error refusal :=
          readIndex_eq_error_iff.2 ⟨_, hvalue, hread⟩
        simp [toChannel, hname, hindex]
    | indexNegative hname hindexes hneg =>
        have hindex := readIndex_eq_ok_iff.2 hindexes
        simp [toChannel, hname, hindex, create_eq_error_iff, hneg]
    | nameEmpty hname hindexes hnonneg =>
        have hindex := readIndex_eq_ok_iff.2 hindexes
        simp [toChannel, hname, hindex, create_eq_error_iff, hnonneg]

end Mapping

/-! ## Entries -/

namespace Entry

variable {entry : Entry} {entries : List Entry} {channels : List Channel}

/-- The short name that an entry states. -/
def shortName? : Entry → Option String
  | .mapping m => m.shortName
  | .channel c => some c.shortName

/-- The long name that an entry states; a mapping without one states its short name for both. -/
def longName? : Entry → Option String
  | .mapping m => m.longName.or m.shortName
  | .channel c => some c.longName

/-- A whole number is the index of an entry at a position. -/
def Indexes (position : Nat) : Entry → Int → Prop
  | .mapping m, n => m.Indexes position n
  | .channel c, n => n = c.index

/-- A channel has the index and the names of an entry at a position. -/
structure Describes (entry : Entry) (position : Nat) (c : Channel) : Prop where
  index : entry.Indexes position c.index
  shortName : entry.shortName? = some c.shortName
  longName : entry.longName? = some c.longName

/-- An entry has a name that is not empty, and its position is its index. -/
structure Fits (entry : Entry) (position : Nat) : Prop where
  named : ∃ name, entry.shortName? = some name ∧ name ≠ ""
  indexed : entry.Indexes position position

/-- A refusal is the one that an entry deserves at a position: for what a mapping says, or for an index
that is not the position. -/
inductive Offends (position : Nat) : Entry → Refusal → Prop
  | mapping {m : Mapping} {refusal : Refusal} (hdeserves : m.Deserves position refusal) :
      Offends position (.mapping m) refusal
  | misplaced {entry : Entry} {c : Channel} (hdescribes : entry.Describes position c)
      (hother : c.index ≠ position) :
      Offends position entry (.misplaced c.shortName c.index position)

theorem describes_channel_iff {given : Channel} :
    (Entry.channel given).Describes position c ↔ given = c := by
  constructor
  · rintro ⟨hindex, hshort, hlong⟩
    exact Channel.ext (Int.ofNat_inj.1 hindex).symm (Option.some.inj hlong) (Option.some.inj hshort)
  · rintro rfl
    exact ⟨rfl, rfl, rfl⟩

theorem toChannel_eq_ok_iff : entry.toChannel position = .ok c ↔ entry.Describes position c := by
  cases entry with
  | mapping m =>
      rw [toChannel, Mapping.toChannel_eq_ok_iff]
      exact ⟨fun ⟨hindex, hshort, hlong⟩ => ⟨hindex, hshort, hlong⟩,
        fun h => ⟨h.index, h.shortName, h.longName⟩⟩
  | channel given => rw [toChannel, Except.ok.injEq, describes_channel_iff]

theorem placed_eq_ok_iff :
    entry.placed position = .ok c ↔ entry.Describes position c ∧ c.index = position := by
  rw [← toChannel_eq_ok_iff]
  cases hentry : entry.toChannel position with
  | error refusal => simp [placed, hentry]
  | ok given =>
      by_cases hindex : given.index = position
      · simp only [placed, hentry, hindex, if_true, Except.ok.injEq]
        exact ⟨fun h => ⟨h, h ▸ hindex⟩, And.left⟩
      · simp only [placed, hentry, hindex, if_false, Except.ok.injEq, reduceCtorEq, false_iff]
        rintro ⟨rfl, hposition⟩
        exact hindex hposition

theorem toChannel_eq_error_iff :
    entry.toChannel position = .error refusal ↔
      ∃ m, entry = .mapping m ∧ m.Deserves position refusal := by
  cases entry with
  | mapping m => simp [toChannel, Mapping.toChannel_eq_error_iff]
  | channel given => simp [toChannel]

theorem placed_eq_error_iff :
    entry.placed position = .error refusal ↔ entry.Offends position refusal := by
  constructor
  · intro h
    cases hentry : entry.toChannel position with
    | error other =>
        have hrefusal : other = refusal := by simpa [placed, hentry] using h
        subst hrefusal
        rcases toChannel_eq_error_iff.1 hentry with ⟨m, rfl, hdeserves⟩
        exact .mapping hdeserves
    | ok given =>
        by_cases hindex : given.index = position
        · simp [placed, hentry, hindex] at h
        · have hrefusal : Refusal.misplaced given.shortName given.index position = refusal := by
            simpa [placed, hentry, hindex] using h
          subst hrefusal
          exact .misplaced (toChannel_eq_ok_iff.1 hentry) hindex
  · intro h
    cases h with
    | mapping hdeserves =>
        have hentry := toChannel_eq_error_iff.2 ⟨_, rfl, hdeserves⟩
        simp [placed, hentry]
    | misplaced hdescribes hother =>
        have hentry := toChannel_eq_ok_iff.2 hdescribes
        simp [placed, hentry, hother]

/-- An entry is accepted at a position exactly if it fits there. -/
theorem exists_placed_iff : (∃ c, entry.placed position = .ok c) ↔ entry.Fits position := by
  simp only [placed_eq_ok_iff]
  constructor
  · rintro ⟨c, hdescribes, rfl⟩
    exact ⟨⟨c.shortName, hdescribes.shortName, c.shortName_ne⟩, hdescribes.index⟩
  · rintro ⟨⟨name, hname, hne⟩, hindexed⟩
    cases entry with
    | mapping m =>
        have hshort : m.shortName = some name := hname
        -- the short name stands in for a long name that is left out
        refine ⟨⟨position, m.longName.getD name, name, hne⟩, ⟨hindexed, hname, ?_⟩, rfl⟩
        cases hlong : m.longName with
        | none => simp [longName?, hlong, hshort]
        | some other => simp [longName?, hlong]
    | channel c =>
        have hindex : position = c.index := Int.ofNat_inj.1 hindexed
        exact ⟨c, describes_channel_iff.2 rfl, hindex.symm⟩

/-! ## Configurations -/

theorem loadFrom_eq_mapM (position : Nat) (entries : List Entry) :
    loadFrom position entries =
      (entries.zipIdx position).mapM fun seat => seat.1.placed seat.2 := by
  induction entries generalizing position with
  | nil => rfl
  | cons entry entries ih =>
      rw [List.zipIdx_cons, List.mapM_cons, ← ih, loadFrom]
      cases entry.placed position with
      | error refusal => rfl
      | ok c =>
          cases loadFrom (position + 1) entries with
          | error refusal => rfl
          | ok channels => rfl

theorem load_eq_ok_iff :
    load entries = .ok channels ↔
      channels.length = entries.length ∧
        ∀ (i : Nat) (entry : Entry) (c : Channel), entries[i]? = some entry →
          channels[i]? = some c → entry.Describes i c ∧ c.index = i := by
  simp only [load, loadFrom_eq_mapM, mapM_zipIdx_eq_ok_iff, placed_eq_ok_iff]

/-- A configuration is refused for its first entry that does not fit. -/
theorem load_eq_error_iff :
    load entries = .error refusal ↔
      ∃ (i : Nat) (entry : Entry), entries[i]? = some entry ∧ entry.Offends i refusal ∧
        ∀ j < i, ∀ earlier : Entry, entries[j]? = some earlier → earlier.Fits j := by
  simp only [load, loadFrom_eq_mapM, mapM_zipIdx_eq_error_iff, placed_eq_error_iff,
    exists_placed_iff]

/-- Every entry of a loaded configuration describes the channel of its position. -/
theorem exists_described_of_load (h : load entries = .ok channels) {i : Nat}
    (hentry : entries[i]? = some entry) :
    ∃ c, channels[i]? = some c ∧ entry.Describes i c ∧ c.index = i := by
  rcases load_eq_ok_iff.1 h with ⟨hlength, hdescribes⟩
  have hlt : i < channels.length := hlength ▸ (List.getElem?_eq_some_iff.1 hentry).1
  have hc : channels[i]? = some channels[i] := List.getElem?_eq_getElem hlt
  exact ⟨channels[i], hc, hdescribes i entry _ hentry hc⟩

/-- Every channel of a loaded configuration is described by the entry of its position. -/
theorem exists_describing_of_load (h : load entries = .ok channels) {i : Nat}
    (hc : channels[i]? = some c) :
    ∃ entry, entries[i]? = some entry ∧ entry.Describes i c ∧ c.index = i := by
  rcases load_eq_ok_iff.1 h with ⟨hlength, hdescribes⟩
  have hlt : i < entries.length := hlength ▸ (List.getElem?_eq_some_iff.1 hc).1
  have hentry : entries[i]? = some entries[i] := List.getElem?_eq_getElem hlt
  exact ⟨entries[i], hentry, hdescribes i _ c hentry hc⟩

theorem exists_load_iff :
    (∃ channels, load entries = .ok channels) ↔
      ∀ (i : Nat) (entry : Entry), entries[i]? = some entry → entry.Fits i := by
  constructor
  · rintro ⟨channels, hload⟩ i entry hentry
    rcases exists_described_of_load hload hentry with ⟨c, -, hdescribes⟩
    exact exists_placed_iff.1 ⟨c, placed_eq_ok_iff.2 hdescribes⟩
  · intro hfits
    cases hload : load entries with
    | ok channels => exact ⟨channels, rfl⟩
    | error refusal =>
        -- an entry that deserves a refusal is not accepted, so it cannot fit
        rcases load_eq_error_iff.1 hload with ⟨i, entry, hentry, hoffends, -⟩
        rcases exists_placed_iff.2 (hfits i entry hentry) with ⟨c, hplaced⟩
        cases hplaced.symm.trans (placed_eq_error_iff.2 hoffends)

/-! ## Entries written anew -/

/-- An entry that describes a channel is written as it was, as the channel, or as the full mapping of the
channel. -/
inductive Rewritten (entry : Entry) (c : Channel) : Entry → Prop
  | kept : Rewritten entry c entry
  | channel : Rewritten entry c (.channel c)
  | mapping : Rewritten entry c (.mapping c.toMapping)

theorem Rewritten.describes {other : Entry} (h : entry.Rewritten c other)
    (hdescribes : entry.Describes position c) : other.Describes position c := by
  cases h with
  | kept => exact hdescribes
  | channel => exact describes_channel_iff.2 rfl
  | mapping => exact toChannel_eq_ok_iff.1 (toChannel_toMapping c (some position))

theorem load_of_rewritten {others : List Entry} (h : load entries = .ok channels)
    (hlength : others.length = entries.length)
    (hothers : ∀ (i : Nat) (entry : Entry) (c : Channel) (other : Entry), entries[i]? = some entry →
      channels[i]? = some c → others[i]? = some other → entry.Rewritten c other) :
    load others = .ok channels := by
  refine load_eq_ok_iff.2 ⟨(load_eq_ok_iff.1 h).1.trans hlength.symm, ?_⟩
  intro i other c hother hc
  rcases exists_describing_of_load h hc with ⟨entry, hentry, hdescribes, hindex⟩
  exact ⟨(hothers i entry c other hentry hc hother).describes hdescribes, hindex⟩

/-! ## Loading -/

/-- A configuration is loaded exactly if all its entries fit, and else refused with what the first misfit
deserves.  What is loaded has one channel for each entry, with its position as index and the names that
the entry states.  It stays the same when entries are written as their channels or as full mappings of
them, and a full mapping gives its channel whatever the fallback. -/
theorem load_checks_positions (entries : List Entry) :
    ((∃ channels, load entries = .ok channels) ↔
        ∀ (i : Nat) (entry : Entry), entries[i]? = some entry → entry.Fits i) ∧
      (∀ refusal, load entries = .error refusal ↔
        ∃ (i : Nat) (entry : Entry), entries[i]? = some entry ∧ entry.Offends i refusal ∧
          ∀ j < i, ∀ earlier : Entry, entries[j]? = some earlier → earlier.Fits j) ∧
      (∀ channels, load entries = .ok channels →
        channels.length = entries.length ∧
          (∀ (i : Nat) (entry : Entry) (c : Channel), entries[i]? = some entry →
            channels[i]? = some c → c.index = i ∧ entry.shortName? = some c.shortName ∧
              entry.longName? = some c.longName) ∧
          ∀ others : List Entry, others.length = entries.length →
            (∀ (i : Nat) (entry : Entry) (c : Channel) (other : Entry), entries[i]? = some entry →
              channels[i]? = some c → others[i]? = some other → entry.Rewritten c other) →
            load others = .ok channels) ∧
      ∀ (c : Channel) (fallback : Option Int), c.toMapping.toChannel fallback = .ok c := by
  refine ⟨exists_load_iff, fun _ => load_eq_error_iff, ?_, toChannel_toMapping⟩
  intro channels hload
  rcases load_eq_ok_iff.1 hload with ⟨hlength, hdescribes⟩
  refine ⟨hlength, ?_, fun others => load_of_rewritten hload⟩
  intro i entry c hentry hc
  have hdescribed := hdescribes i entry c hentry hc
  exact ⟨hdescribed.2, hdescribed.1.shortName, hdescribed.1.longName⟩

/-- A mapping of a name only, a channel, and a mapping whose index is written as text. -/
def mixedEntries : List Entry :=
  [.mapping { shortName := some "Li" }, .channel ⟨1, "radar", "Ra", by decide⟩,
    .mapping { index := some (.text " 2 "), longName := some "camera", shortName := some "Ca" }]

def mixedChannels : List Channel :=
  [⟨0, "Li", "Li", by decide⟩, ⟨1, "radar", "Ra", by decide⟩, ⟨2, "camera", "Ca", by decide⟩]

/-- The three entries are loaded, also with the first one as a channel and the second one as a full
mapping.  An index that is written as zero stays zero, and ends the loading before a missing name does. -/
theorem load_checks_positions_mixed :
    let rewritten : List Entry :=
      [.channel ⟨0, "Li", "Li", by decide⟩,
        .mapping { index := some (.integer 1), longName := some "radar", shortName := some "Ra" },
        .mapping { index := some (.text " 2 "), longName := some "camera", shortName := some "Ca" }]
    let refused : List Entry :=
      [.mapping { shortName := some "Li" },
        .mapping { index := some (.integer 0), shortName := some "Ra" }, .mapping {}]
    load mixedEntries = .ok mixedChannels ∧ load rewritten = .ok mixedChannels ∧
      load refused = .error (.misplaced "Ra" 0 1) := by
  intro rewritten refused
  have hload : load mixedEntries = .ok mixedChannels := rfl
  have hothers : ∀ (i : Nat) (entry : Entry) (c : Channel) (other : Entry),
      mixedEntries[i]? = some entry → mixedChannels[i]? = some c → rewritten[i]? = some other →
        entry.Rewritten c other := by
    rintro (_ | _ | _ | i) entry c other ⟨⟩ ⟨⟩ ⟨⟩
    · exact .channel
    · exact .mapping
    · exact .kept
  refine ⟨hload, ((load_checks_positions mixedEntries).2.2.1 _ hload).2.2 rewritten rfl hothers, ?_⟩
  have hdescribes : (Entry.mapping { index := some (.integer 0), shortName := some "Ra" }).Describes 1
      ⟨0, "Ra", "Ra", by decide⟩ := ⟨.given rfl rfl, rfl, rfl⟩
  have hfirst : (Entry.mapping { shortName := some "Li" }).Fits 0 :=
    ⟨⟨"Li", rfl, by decide⟩, .leftOut rfl⟩
  refine ((load_checks_positions refused).2.1 _).2
    ⟨1, _, rfl, .misplaced hdescribes (by decide), ?_⟩
  intro j hj earlier hearlier
  have hzero : j = 0 := Nat.lt_one_iff.1 hj
  subst hzero
  cases hearlier
  exact hfirst

end Entry
end Channel
end TrackOverlay
