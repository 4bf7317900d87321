import TrackOverlay.Channel

/-!
# Entry — the channel configuration and its two written forms

A channel configuration is a list of entries in channel order.  An entry is a finished channel or a
mapping that describes one; a mapping may leave out the index, which is then the position, and the
long name, which is then the short name.  Loading checks that every channel stands where its index
says, and stops at the first entry that is refused.
-/

namespace TrackOverlay
namespace Channel

/-! ## Mappings -/

inductive IndexValue where
  | integer (n : Int)
  | real (x : Float)
  | truth (b : Bool)
  | text (s : String)
  | misfit (kind : Misfit)
  deriving DecidableEq, Repr

/-- The whole number that an index value stands for; fractions are dropped toward zero, and a truth
value counts as one or zero. -/
def IndexValue.read : IndexValue → Except Refusal Int
  | .integer n => .ok n
  | .real x => (Binary64.ofFloat x).integerPart.mapError .indexNotFinite
  | .truth b => .ok (if b then 1 else 0)
  | .text s =>
      match Numeral.read s with
      | .ok n => .ok n
      | .error .malformed => .error (.indexUnreadable s)
      | .error (.tooLong digits) => .error (.indexTooLong digits)
  | .misfit kind => .error (.indexMisfit kind)

/-- A channel described by named fields, of which some may be missing. -/
structure Mapping where
  index : Option IndexValue := none
  longName : Option String := none
  shortName : Option String := none
  deriving DecidableEq, Repr

namespace Mapping

/-- The index of a mapping: its own, else the fallback, else zero. -/
def readIndex (m : Mapping) (fallback : Option Int) : Except Refusal Int :=
  match m.index with
  | some value => value.read
  | none => .ok (fallback.getD 0)

def toChannel (m : Mapping) (fallback : Option Int) : Except Refusal Channel :=
  match m.shortName with
  | none => .error .nameMissing
  | some shortName =>
      -- an empty name is noticed only after the index, by `create`
      match m.readIndex fallback with
      | .error refusal => .error refusal
      | .ok index => create index (m.longName.getD shortName) shortName

end Mapping

def toMapping (c : Channel) : Mapping := ⟨some (.integer c.index), some c.longName, some c.shortName⟩

theorem toChannel_toMapping (c : Channel) (fallback : Option Int) :
    c.toMapping.toChannel fallback = .ok c := by
  simpa [toMapping, Mapping.toChannel, Mapping.readIndex, IndexValue.read] using create_fields c

/-! ## Configurations -/

inductive Entry where
  | mapping (m : Mapping)
  | channel (c : Channel)
  deriving DecidableEq, Repr

namespace Entry

/-- The channel of an entry at a position, wherever its index places it. -/
def toChannel (position : Nat) : Entry → Except Refusal Channel
  | .mapping m => m.toChannel (some position)
  | .channel c => .ok c

/-- The channel of an entry that stands where its index says. -/
def placed (position : Nat) (entry : Entry) : Except Refusal Channel :=
  match entry.toChannel position with
  | .error refusal => .error refusal
  | .ok c =>
      if c.index = position then .ok c
      else .error (.misplaced c.shortName c.index position)

/-- The channels of the entries that stand from a position on. -/
def loadFrom (position : Nat) : List Entry → Except Refusal (List Channel)
  | [] => .ok []
  | entry :: entries =>
      match entry.placed position with
      | .error refusal => .error refusal
      | .ok c => (loadFrom (position + 1) entries).map (c :: ·)

def load (entries : List Entry) : Except Refusal (List Channel) := loadFrom 0 entries

end Entry

end Channel
end TrackOverlay
