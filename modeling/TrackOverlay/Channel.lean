import TrackOverlay.Number.Binary64
import TrackOverlay.Text.Numeral
import TrackOverlay.Text.Quoted

/-!
# Channel — configured detection sources

A channel describes one detection source of the tracker.  Its index is its position in the channel
configuration, its short name marks labels and marker namespaces and is never empty.  This file
holds the descriptor, its constructor and the causes for which a description is refused.
-/

namespace TrackOverlay

structure Channel where
  index : Nat
  longName : String
  shortName : String
  shortName_ne : shortName ≠ ""
  deriving DecidableEq, Repr

namespace Channel

@[ext] theorem ext {a b : Channel} (hi : a.index = b.index) (hl : a.longName = b.longName)
    (hs : a.shortName = b.shortName) : a = b := by
  cases a
  cases b
  cases hi
  cases hl
  cases hs
  rfl

inductive Misfit where
  | nothing
  | list
  | mapping
  deriving DecidableEq, Repr

def Misfit.name : Misfit → String
  | .nothing => "NoneType"
  | .list => "list"
  | .mapping => "dict"

/-- The cause for which a channel description is refused. -/
inductive Refusal where
  | nameMissing
  | indexUnreadable (text : String)
  | indexTooLong (digits : Nat)
  | indexMisfit (kind : Misfit)
  | indexNotFinite (reason : Binary64.NotFinite)
  | indexNegative (index : Int)
  | nameEmpty
  /-- The channel stands at another position of the configuration than its index says. -/
  | misplaced (shortName : String) (index position : Nat)
  deriving DecidableEq, Repr

namespace Refusal

/-- How many characters of an unreadable text a message shows, quotes and escapes counted. -/
def shownCharacters : Nat := 200

def message : Refusal → String
  | .nameMissing => "'short_name'"
  | .indexUnreadable text =>
      "invalid literal for int() with base 10: " ++
        String.ofList ((Quoted.text text.toList).take shownCharacters)
  | .indexTooLong digits =>
      "Exceeds the limit (" ++ toString Numeral.maxDigits ++
        " digits) for integer string conversion: value has " ++ toString digits ++
        " digits; use sys.set_int_max_str_digits() to increase the limit"
  | .indexMisfit kind =>
      "int() argument must be a string, a bytes-like object or a real number, not '" ++ kind.name ++
        "'"
  | .indexNotFinite reason => reason.message
  | .indexNegative index => "index must be non-negative, got " ++ toString index
  | .nameEmpty => "short_name must not be empty"
  | .misplaced shortName index position =>
      "channel '" ++ shortName ++ "' has index " ++ toString index ++
        " but is configured at position " ++ toString position

end Refusal

/-- The channel with the given fields; the index is checked before the name. -/
def create (index : Int) (longName shortName : String) : Except Refusal Channel :=
  if index < 0 then .error (.indexNegative index)
  else if h : shortName = "" then .error .nameEmpty
  else .ok ⟨index.toNat, longName, shortName, h⟩

theorem create_fields (c : Channel) : create c.index c.longName c.shortName = .ok c := by
  have hnonneg : ¬ (c.index : Int) < 0 := by omega
  simp [create, hnonneg, c.shortName_ne]

end Channel
end TrackOverlay
