import TrackOverlay.Number.Binary64
import TrackOverlay.Number.Storage
import TrackOverlay.Violation

/-!
# Fault — why a diagnostic operation gives no result

The causes for which snapshots are not taken and scenes not drawn.  A `violation` contradicts the
channel configuration and is logged by the session; the other causes are data without a usable
shape or value.  Messages are made here and nowhere else.
-/

namespace TrackOverlay

/-- The numbered families of names that a number may fail to belong to. -/
inductive CodeFamily where
  | markerShape
  | markerAction
  | violationCode
  deriving DecidableEq, Repr

def CodeFamily.name : CodeFamily → String
  | .markerShape => "MarkerType"
  | .markerAction => "MarkerAction"
  | .violationCode => "ErrorCode"

/-- The cause for which an operation gives no result. -/
inductive Fault where
  /-- Data contradicts the channel configuration. -/
  | violation (v : Violation)
  /-- A position does not consist of three coordinates. -/
  | positionSize (count : Nat)
  /-- The numbers of a position are nested deeper than the limit. -/
  | positionTooDeep (limit : Nat)
  /-- The numbers of a position make no array: beyond the given sizes its parts differ. -/
  | positionRagged (sizes : List Nat)
  /-- A vector has no entry at an index. -/
  | index (reason : Storage.IndexRefusal)
  /-- A vector of a size cannot be made. -/
  | size (reason : Storage.SizeRefusal)
  | itemMissing
  | percentage (reason : Binary64.NotFinite)
  | unknownCode (family : CodeFamily) (number : Int)
  /-- A number has more digits than the runtime writes. -/
  | numeralTooLong (limit : Nat)
  /-- A tracker fails on its own account. -/
  | tracker (message : String)
  deriving DecidableEq, Repr

namespace Fault

/-- The sizes of an array, as messages write them. -/
def sizesText : List Nat → String
  | [n] => "(" ++ toString n ++ ",)"
  | sizes => "(" ++ String.intercalate ", " (sizes.map toString) ++ ")"

def message : Fault → String
  | .violation v => v.message
  | .positionSize count =>
      "cannot reshape array of size " ++ toString count ++ " into shape (3,)"
  | .positionTooDeep limit =>
      "setting an array element with a sequence. The requested array would exceed the maximum " ++
        "number of dimension of " ++ toString limit ++ "."
  | .positionRagged sizes =>
      "setting an array element with a sequence. The requested array has an inhomogeneous shape " ++
        "after " ++ toString sizes.length ++ " dimensions. The detected shape was " ++
        sizesText sizes ++ " + inhomogeneous part."
  | .index reason => reason.message
  | .size reason => reason.message
  | .itemMissing => "list index out of range"
  | .percentage reason => reason.message
  | .unknownCode family number => toString number ++ " is not a valid " ++ family.name
  | .numeralTooLong limit =>
      "Exceeds the limit (" ++ toString limit ++ " digits) for integer string conversion; " ++
        "use sys.set_int_max_str_digits() to increase the limit"
  | .tracker message => message

end Fault

def Violation.Code.ofNumber (n : Int) : Except Fault Violation.Code :=
  match ofNumber? n with
  | some c => .ok c
  | none => .error (.unknownCode .violationCode n)

end TrackOverlay
