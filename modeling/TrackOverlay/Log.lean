/-!
# Log — tagged messages behind one level

All messages of the overlay go to one logger.  Each has a tag, which names the component that
speaks, and a level.  The logger is set up once, explicitly or when it is first needed; later set-ups
change nothing.  A set-up level of zero means that the level of the surrounding system applies.

What the overlay shows goes to the console of its logger.  The surrounding system has a last resort
for messages that no logger has a handler for: from the level of warnings on they appear on its error
stream.  So a logger without a console still lets errors be seen, outside the overlay's reach.
-/

namespace TrackOverlay
namespace Log

/-! ## Levels -/

def debug : Int := 10

def info : Int := 20

/-- Level from which the surrounding system shows messages. -/
def warning : Int := 30

def error : Int := 40

/-! ## Lines -/

/-- A message as its component hands it over. -/
structure Line where
  level : Int
  tag : String
  message : String
  deriving DecidableEq, Repr

def Line.text (line : Line) : String := "[" ++ line.tag ++ "] " ++ line.message

/-! ## Set-ups -/

/-- What the log is asked to be. -/
structure Options where
  level : Int := info
  console : Bool := true
  deriving DecidableEq, Repr

/-- A place where lines are shown, and the level from which it shows them. -/
structure Handler where
  level : Int
  deriving DecidableEq, Repr

/-- A logger as it is set up. -/
structure Setup where
  level : Int
  handlers : List Handler
  deriving DecidableEq, Repr

namespace Setup

/-- A logger that nobody has set up. -/
def unconfigured : Setup := ⟨0, []⟩

/-- The logger of a first set-up.  A console gets the level of the logger. -/
def ofOptions (o : Options) : Setup := ⟨o.level, if o.console then [⟨o.level⟩] else []⟩

/-- The level from which lines are passed to the handlers. -/
def effectiveLevel (s : Setup) : Int := if s.level = 0 then warning else s.level

/-- Whether a line is passed to the handlers; levels up to zero never are. -/
def admits (s : Setup) (line : Line) : Bool :=
  decide (0 < line.level) && decide (s.effectiveLevel ≤ line.level)

/-- The texts shown of a line, one by each handler that takes it. -/
def shown (s : Setup) (line : Line) : List String :=
  if s.admits line then
    (s.handlers.filter fun h => decide (h.level ≤ line.level)).map fun _ => line.text
  else []

/-- The texts of a line that the surrounding system shows, because the logger has no handler. -/
def lastResort (s : Setup) (line : Line) : List String :=
  if s.admits line && s.handlers.isEmpty && decide (warning ≤ line.level) then [line.text] else []

end Setup

/-! ## The log as a state -/

/-- A way to write lines of one tag and level to the logger of a name. -/
structure Writer where
  logger : String
  tag : String
  level : Int
  deriving DecidableEq, Repr

def Writer.line (w : Writer) (message : String) : Line := ⟨w.level, w.tag, message⟩

structure Description where
  name : String
  level : Int
  handlers : Nat
  deriving DecidableEq, Repr

def ownName : String := "trackdbg"

/-- The name of the logger that all others are below of. -/
def rootName : String := "root"

inductive Request where
  | start (options : Options)
  | writer (tag : String) (level : Int)
  | describe (name : String)
  | write (w : Writer) (message : String)
  deriving DecidableEq, Repr

inductive Reply where
  | done
  | writer (w : Writer)
  | description (d : Description)
  deriving DecidableEq, Repr

/-- The outcome of one request: the answer, the texts on the console, those on the error stream of the
surrounding system, and the set-up that holds from now on. -/
structure Step where
  reply : Reply
  shown : List String
  lastResort : List String
  setup : Option Setup
  deriving DecidableEq, Repr

/-- The logger of a name, once the log is set up.  Only the overlay's own logger is configured. -/
def lookUp (s : Setup) (name : String) : Description :=
  if name = ownName then ⟨name, s.level, s.handlers.length⟩
  else if name = "" ∨ name = rootName then ⟨rootName, warning, 0⟩
  else ⟨name, 0, 0⟩

/-- The logger that takes what is written to the logger of a name: the overlay's own for itself and
the loggers below it, and one that nobody has set up for all others. -/
def taker (setup : Option Setup) (name : String) : Setup :=
  if name = ownName || (ownName ++ ".").isPrefixOf name then setup.getD .unconfigured
  else .unconfigured

/-- The set-up that a request works with: the one that is there, or else a first one. -/
def ensured (setup : Option Setup) (o : Options) : Setup :=
  match setup with
  | some s => s
  | none => .ofOptions o

/-- Answers a request.  Whatever needs the log sets it up with its defaults if nobody has before. -/
def step (setup : Option Setup) : Request → Step
  -- a set-up that is there already is kept
  | .start o => ⟨.done, [], [], some (ensured setup o)⟩
  | .writer tag level => ⟨.writer ⟨ownName, tag, level⟩, [], [], some (ensured setup {})⟩
  | .describe name =>
      ⟨.description (lookUp (ensured setup {}) name), [], [], some (ensured setup {})⟩
  | .write w message =>
      let logger := taker setup w.logger
      ⟨.done, logger.shown (w.line message), logger.lastResort (w.line message), setup⟩

/-- Answers requests in order, each with the set-up that the one before left. -/
def run (setup : Option Setup) : List Request → List Step
  | [] => []
  | request :: rest =>
      let first := step setup request
      first :: run first.setup rest

def after (setup : Option Setup) (requests : List Request) : Option Setup :=
  requests.foldl (fun state request => (step state request).setup) setup

def Line.request (line : Line) : Request := .write ⟨ownName, line.tag, line.level⟩ line.message

/-- The texts shown when lines are written one after the other. -/
def writeAll (setup : Option Setup) (lines : List Line) : List String :=
  lines.flatMap fun line => (step setup line.request).shown

end Log
end TrackOverlay
