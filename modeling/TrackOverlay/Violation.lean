/-!
# Violation — tracker data that does not fit the channel configuration

A violation is the caller's mistake: the data handed in contradicts the configuration it is handed
in for.  Missing data is no violation; it shows as nothing.  Each violation has a numeric code for
diagnostics output and a message for people.
-/

namespace TrackOverlay
namespace Violation

/-- What kind of contradiction was found. -/
inductive Code where
  | success
  | unknown
  | vectorSize
  | channelIndex
  | assignmentIndex
  deriving DecidableEq, Repr

namespace Code

def number : Code → Int
  | .success => 0
  | .unknown => 1
  | .vectorSize => 100
  | .channelIndex => 101
  | .assignmentIndex => 102

def all : List Code := [.success, .unknown, .vectorSize, .channelIndex, .assignmentIndex]

def ofNumber? (n : Int) : Option Code := all.find? fun c => c.number = n

/-- The message of a violation that brings none of its own. -/
def message : Code → String
  | .success => "Success"
  | .unknown => "Unknown error"
  | .vectorSize => "Existence vector does not match channel configuration"
  | .channelIndex => "Channel index out of range"
  | .assignmentIndex => "Assignment refers to a missing detection"

/-- The default message for any number; numbers without a code count as unknown. -/
def messageOfNumber (n : Int) : String := ((ofNumber? n).getD .unknown).message

end Code
end Violation

/-- Tracker data that does not fit the channel configuration. -/
inductive Violation where
  /-- A violation described by its reporter alone. -/
  | general (message : String) (code : Violation.Code)
  /-- The existence vector of a tracker does not have one entry per channel. -/
  | vectorSize (tracker : String) (size expected : Int)
  /-- Something is associated through a channel that is not configured. -/
  | channelIndex (channel count : Int)
  /-- A tracker is assigned to a detection that does not exist. -/
  | assignmentIndex (tracker detection count : Int)
  deriving DecidableEq, Repr

namespace Violation

def code : Violation → Code
  | .general _ c => c
  | .vectorSize .. => .vectorSize
  | .channelIndex .. => .channelIndex
  | .assignmentIndex .. => .assignmentIndex

/-- How many characters of a tracker's identity text a message shows. -/
def shownCharacters : Nat := 6

def message : Violation → String
  | .general own c => if own.isEmpty then c.message else own
  | .vectorSize tracker size expected =>
      "Existence vector of tracker " ++ String.ofList (tracker.toList.take shownCharacters) ++
        " has " ++ toString size ++ " entries, expected " ++ toString expected
  | .channelIndex channel count =>
      "Channel index " ++ toString channel ++ " out of range for " ++ toString count ++ " channels"
  | .assignmentIndex tracker detection count =>
      "Tracker " ++ toString tracker ++ " assigned to detection " ++ toString detection ++
        ", but only " ++ toString count ++ " detections exist"

end Violation
end TrackOverlay
