import TrackOverlay.Session

/-!
# Transcript — a session as its surroundings see it

A session writes to a log that may show all of its lines, some or none.  The transcript of a run is
what remains visible: the replies, the states and the texts that the log shows on its console.
Opening a session obtains its three writers, so a log that nobody has set up gets its defaults then.
-/

namespace TrackOverlay
namespace Session

/-- The set-up of the log once a session has obtained its writers. -/
def openLog (setup : Option Log.Setup) : Option Log.Setup :=
  Log.after setup
    [.writer tag Log.info, .writer tag Log.debug, .writer tag Log.error]

structure Entry where
  reply : Except Fault Reply
  shown : List String
  next : Session

/-- What is seen of a session from its opening on. -/
structure Transcript where
  opening : List String
  entries : List Entry

/-- What is seen of a step through a log. -/
def Step.entry (setup : Option Log.Setup) (s : Step) : Entry :=
  ⟨s.reply, Log.writeAll setup s.lines, s.next⟩

def openingShown (c : Canvas) (setup : Option Log.Setup) : List String :=
  Log.writeAll setup [openingLine c]

/-- The transcript of a new session that answers requests in order. -/
def transcript (c : Canvas) (setup : Option Log.Setup) (requests : List Request) : Transcript :=
  let setup := openLog setup
  ⟨openingShown c setup, (run c {} requests).map (Step.entry setup)⟩

end Session
end TrackOverlay
