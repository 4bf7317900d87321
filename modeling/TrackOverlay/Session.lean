import TrackOverlay.Log
import TrackOverlay.Number.FixedPlaces
import TrackOverlay.Scene.Rendering
import TrackOverlay.Snapshot.Cycle
import TrackOverlay.Snapshot.Grouping

/-!
# Session — the overlay from cycle to cycle

A session accumulates snapshots over collected cycles, groups them by object on demand and draws the
groups.  Its state is what it accumulated; every request maps a state to a next state together with
a reply, the log lines it wrote and the queries it put to trackers.

A refused request keeps what was accumulated.  A refused collection has still noted that and when
it was asked; a refused drawing keeps the previous scene.  The log line of a collection is made only
after its snapshots are kept: on a runtime that does not write numbers of any length, a channel with
too long a number has the collection refused with the snapshots taken.
-/

namespace TrackOverlay

structure Session where
  /-- Whether a collection was ever asked for. -/
  started : Bool := false
  time : Float := 0.0
  snapshots : List Snapshot := []
  groups : List (List Snapshot) := []
  /-- The latest scene drawn from groups. -/
  scene : Scene := []
  deriving DecidableEq, Repr

namespace Session

inductive Request where
  | collect (cycle : Cycle)
  | process
  | render
  | finalize
  | reset
  | readStarted
  | readTime
  | readChannels
  | readSnapshots
  | readGroups
  | readScene

inductive Reply where
  | done
  | started (value : Bool)
  | time (value : Float)
  | channels (all : List Channel)
  | snapshots (all : List Snapshot)
  | groups (all : List (List Snapshot))
  | scene (markers : Scene)
  deriving DecidableEq, Repr

structure Step where
  reply : Except Fault Reply
  lines : List Log.Line
  queries : List Query
  next : Session

/-! ## Log lines -/

def tag : String := "DEBUGGER"

def line (level : Int) (message : String) : Log.Line := ⟨level, tag, message⟩

def timeText (time : Float) : String := FixedPlaces.text 3 time

def openingLine (c : Canvas) : Log.Line :=
  line Log.info <|
    "Tracker object debugger initialized in '" ++ c.frame ++ "' with " ++ toString c.channelCount ++
      " channels [" ++ String.intercalate ", " (c.channels.map Channel.shortName) ++ "]"

/-- The line of a collection, if the runtime writes the number of its channel. -/
def collectedLine (c : Canvas) (cycle : Cycle) (count : Nat) : Except Fault Log.Line :=
  match Numeral.write c.digitLimit cycle.detections.channel with
  | .error limit => .error (.numeralTooLong limit)
  | .ok channel =>
      .ok <| line Log.debug <|
        "Collected " ++ toString count ++ " trackers from channel " ++ channel ++
          " at t=" ++ timeText cycle.time

/-- The lines of a refused collection: violations are reported, other faults are not. -/
def refusedLines (time : Float) : Fault → List Log.Line
  | .violation v =>
      [line Log.error ("Collect failed at t=" ++ timeText time ++ ": " ++ v.message)]
  | _ => []

def groupedLine (snapshots groups : Nat) : Log.Line :=
  line Log.debug <|
    "Grouped " ++ toString snapshots ++ " records into " ++ toString groups ++ " objects"

def resetLine : Log.Line := line Log.debug "Debugger reset"

/-! ## Requests -/

/-- Takes snapshots of a cycle; all are kept, or none if a tracker does not fit. -/
def collect (c : Canvas) (s : Session) (cycle : Cycle) : Step :=
  let asked := { s with started := true, time := cycle.time }
  let inquiry := cycle.collect c.channelCount
  -- the clock is set either way, before anything is known of the trackers
  match inquiry.outcome with
  | .error fault => ⟨.error fault, refusedLines cycle.time fault, inquiry.queries, asked⟩
  | .ok taken =>
      let kept := { asked with snapshots := s.snapshots ++ taken }
      -- the line comes last, so without it the snapshots are kept all the same
      match collectedLine c cycle taken.length with
      | .error fault => ⟨.error fault, [], inquiry.queries, kept⟩
      | .ok line => ⟨.ok .done, [line], inquiry.queries, kept⟩

/-- Groups the snapshots; nothing happens before the first collection. -/
def process (s : Session) : Step :=
  if s.started then
    let groups := Snapshot.groups s.snapshots
    ⟨.ok (.groups groups), [groupedLine s.snapshots.length groups.length], [],
      { s with groups := groups }⟩
  else ⟨.ok (.groups []), [], [], s⟩

/-- Draws the groups; without groups the reply is an empty scene and the stored one is left alone. -/
def render (c : Canvas) (s : Session) : Step :=
  if s.started && !s.groups.isEmpty then
    -- a scene replaces the stored one only once it is complete
    match c.draw s.groups with
    | .error fault => ⟨.error fault, [], [], s⟩
    | .ok scene => ⟨.ok (.scene scene), [], [], { s with scene := scene }⟩
  else ⟨.ok (.scene []), [], [], s⟩

def finalize (c : Canvas) (s : Session) : Step :=
  let grouped := s.process
  let drawn := grouped.next.render c
  ⟨drawn.reply, grouped.lines ++ drawn.lines, grouped.queries ++ drawn.queries, drawn.next⟩

/-- Forgets snapshots, groups and scene; that and when a collection was asked for is kept. -/
def reset (s : Session) : Step :=
  ⟨.ok .done, [resetLine], [], { s with snapshots := [], groups := [], scene := [] }⟩

/-- A reply that leaves the session as it is. -/
def read (s : Session) (reply : Reply) : Step := ⟨.ok reply, [], [], s⟩

def step (c : Canvas) (s : Session) : Request → Step
  | .collect cycle => s.collect c cycle
  | .process => s.process
  | .render => s.render c
  | .finalize => s.finalize c
  | .reset => s.reset
  | .readStarted => s.read (.started s.started)
  | .readTime => s.read (.time s.time)
  | .readChannels => s.read (.channels c.channels)
  | .readSnapshots => s.read (.snapshots s.snapshots)
  | .readGroups => s.read (.groups s.groups)
  | .readScene => s.read (.scene s.scene)

/-! ## Runs -/

/-- Answers requests in order, each from the state that the one before left. -/
def run (c : Canvas) (s : Session) : List Request → List Step
  | [] => []
  | request :: rest =>
      let first := s.step c request
      first :: first.next.run c rest

def after (c : Canvas) (s : Session) (requests : List Request) : Session :=
  requests.foldl (fun state request => (state.step c request).next) s

end Session
end TrackOverlay
