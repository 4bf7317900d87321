import TrackOverlay.Proofs.Session.Moves

/-!
# Reset — a session after a reset is as good as new

A reset keeps whether and when a collection was asked for, so the session after it is not the new
one, and some of its requests take other branches.  Nothing but that clock can be observed, though:
two sessions that are both blank, or equal, answer alike and stay so (`Alike`, `Alike.step`), and a
collection sets the clocks of both.  `run_after_reset` reads this off a pair of runs of any length.
-/

namespace TrackOverlay
namespace Session

variable {c : Canvas} {s t : Session}

/-! ## Alike sessions -/

/-- A session without snapshots, groups and scene. -/
structure Blank (s : Session) : Prop where
  snapshots : s.snapshots = []
  groups : s.groups = []
  scene : s.scene = []

theorem Blank.eq_clock (hs : Blank s) : s = { started := s.started, time := s.time } := by
  rcases s with ⟨started, time, snapshots, groups, scene⟩
  rcases hs with ⟨rfl, rfl, rfl⟩
  rfl

/-- Sessions that differ in their clocks at most, and only while both are blank. -/
inductive Alike : Session → Session → Prop
  | same (s : Session) : Alike s s
  | blank {s t : Session} (hs : Blank s) (ht : Blank t) : Alike s t

theorem Alike.lists (h : Alike s t) :
    s.snapshots = t.snapshots ∧ s.groups = t.groups ∧ s.scene = t.scene := by
  cases h with
  | same => exact ⟨rfl, rfl, rfl⟩
  | blank hs ht =>
      exact ⟨hs.snapshots.trans ht.snapshots.symm, hs.groups.trans ht.groups.symm,
        hs.scene.trans ht.scene.symm⟩

/-- Whether a request asks for the clock itself. -/
def Request.asksClock : Request → Bool
  | .readStarted => true
  | .readTime => true
  | _ => false

def Request.isCollect : Request → Bool
  | .collect _ => true
  | _ => false

/-! ## Steps of blank sessions -/

theorem Blank.collect_eq (hs : Blank s) (ht : Blank t) (cycle : Cycle) :
    s.collect c cycle = t.collect c cycle := by
  rw [hs.eq_clock, ht.eq_clock]
  rfl

/-- Grouping nothing gives no groups, like not grouping at all. -/
theorem Blank.process (hs : Blank s) :
    s.process.reply = .ok (.groups []) ∧ s.process.queries = [] ∧ Blank s.process.next := by
  rw [hs.eq_clock]
  cases s.started with
  | true => exact ⟨rfl, rfl, rfl, rfl, rfl⟩
  | false => exact ⟨rfl, rfl, rfl, rfl, rfl⟩

theorem Blank.render (hs : Blank s) : s.render c = ⟨.ok (.scene []), [], [], s⟩ := by
  simp [Session.render, hs.groups]

/-- What a blank session answers, whatever its clock says. -/
theorem Blank.step (hs : Blank s) {request : Request} (hcollect : request.isCollect = false) :
    (request.asksClock = false → (s.step c request).reply = (step c {} request).reply) ∧
      (s.step c request).queries = [] ∧ Blank (s.step c request).next := by
  cases request with
  | collect cycle => simp [Request.isCollect] at hcollect
  | process =>
      rcases hs.process with ⟨hreply, hqueries, hnext⟩
      exact ⟨fun _ => hreply, hqueries, hnext⟩
  | render =>
      rw [Session.step, hs.render]
      exact ⟨fun _ => rfl, rfl, hs⟩
  | finalize =>
      rcases hs.process with ⟨-, hqueries, hnext⟩
      rw [Session.step, finalize, hnext.render, hqueries]
      exact ⟨fun _ => rfl, rfl, hnext⟩
  | reset => exact ⟨fun _ => rfl, rfl, rfl, rfl, rfl⟩
  | readStarted => exact ⟨fun h => by simp [Request.asksClock] at h, rfl, hs⟩
  | readTime => exact ⟨fun h => by simp [Request.asksClock] at h, rfl, hs⟩
  | readChannels => exact ⟨fun _ => rfl, rfl, hs⟩
  | readSnapshots =>
      rw [hs.eq_clock]
      exact ⟨fun _ => rfl, rfl, rfl, rfl, rfl⟩
  | readGroups =>
      rw [hs.eq_clock]
      exact ⟨fun _ => rfl, rfl, rfl, rfl, rfl⟩
  | readScene =>
      rw [hs.eq_clock]
      exact ⟨fun _ => rfl, rfl, rfl, rfl, rfl⟩

/-! ## Steps and runs of alike sessions -/

/-- Alike sessions answer alike and stay alike; a collection makes them equal. -/
theorem Alike.step (h : Alike s t) (request : Request) :
    (request.asksClock = false → (s.step c request).reply = (t.step c request).reply) ∧
      (s.step c request).queries = (t.step c request).queries ∧
      Alike (s.step c request).next (t.step c request).next ∧
      (request.isCollect = true → (s.step c request).next = (t.step c request).next) := by
  cases h with
  | same => exact ⟨fun _ => rfl, rfl, .same _, fun _ => rfl⟩
  | blank hs ht =>
      cases hcollect : request.isCollect with
      | true =>
          -- the clocks are overwritten, and all else agrees already
          obtain ⟨cycle, rfl⟩ : ∃ cycle, request = .collect cycle := by
            cases request with
            | collect cycle => exact ⟨cycle, rfl⟩
            | _ => simp [Request.isCollect] at hcollect
          have hequal : s.step c (.collect cycle) = t.step c (.collect cycle) :=
            hs.collect_eq ht cycle
          rw [hequal]
          exact ⟨fun _ => rfl, rfl, .same _, fun _ => rfl⟩
      | false =>
          rcases hs.step (c := c) hcollect with ⟨hsreply, hsqueries, hsnext⟩
          rcases ht.step (c := c) hcollect with ⟨htreply, htqueries, htnext⟩
          refine ⟨?_, hsqueries.trans htqueries.symm, .blank hsnext htnext, by simp⟩
          intro hclock
          rw [hsreply hclock, htreply hclock]

theorem Alike.after (h : Alike s t) (requests : List Request) :
    Alike (after c s requests) (after c t requests) :=
  after_relation h (fun request _ _ halike => (halike.step request).2.2.1) requests

/-- From the first collection on, alike sessions are equal. -/
theorem Alike.after_eq (h : Alike s t) {requests : List Request}
    (hcollect : ∃ request ∈ requests, request.isCollect = true) :
    Session.after c s requests = Session.after c t requests := by
  induction requests generalizing s t with
  | nil => simp at hcollect
  | cons request rest ih =>
      rcases h.step (c := c) request with ⟨-, -, hnext, hequal⟩
      rw [after_cons, after_cons]
      cases hfirst : request.isCollect with
      | true => rw [hequal hfirst]
      -- not yet collected: still alike, and the collection is in the rest
      | false =>
          refine ih hnext ?_
          simpa [hfirst] using hcollect

/-- The steps of a run, each from the state that the requests before it left. -/
theorem run_getElem? (c : Canvas) (s : Session) (requests : List Request) (i : Nat) :
    (run c s requests)[i]? =
      requests[i]?.map fun request => (Session.after c s (requests.take i)).step c request := by
  induction requests generalizing s i with
  | nil => rfl
  | cons request rest ih =>
      cases i with
      | zero => rfl
      | succ i => simpa [run] using ih (s.step c request).next i

theorem after_take_succ (c : Canvas) (s : Session) {requests : List Request} {i : Nat}
    {request : Request} (h : requests[i]? = some request) :
    Session.after c s (requests.take (i + 1)) =
      ((Session.after c s (requests.take i)).step c request).next := by
  rw [List.take_add_one, h, after_append]
  rfl

/-! ## Runs after a reset -/

theorem alike_reset (c : Canvas) (s : Session) : Alike (s.step c .reset).next {} :=
  .blank ⟨rfl, rfl, rfl⟩ ⟨rfl, rfl, rfl⟩

/-- After a reset, whatever came before it, the steps of a run are those of a new session: the same
replies, queries and lists.  The clock alone may differ, and only before the first collection. -/
theorem run_after_reset (c : Canvas) (s : Session) {requests : List Request} {i : Nat}
    {request : Request} (hi : requests[i]? = some request) :
    ∃ a b, (run c (s.step c .reset).next requests)[i]? = some a ∧
      (run c {} requests)[i]? = some b ∧
      (request.asksClock = false ∨ (∃ earlier ∈ requests.take i, earlier.isCollect = true) →
        a.reply = b.reply) ∧
      a.queries = b.queries ∧
      (a.next.snapshots = b.next.snapshots ∧ a.next.groups = b.next.groups ∧
        a.next.scene = b.next.scene) ∧
      ((∃ earlier ∈ requests.take (i + 1), earlier.isCollect = true) → a.next = b.next) := by
  have halike := alike_reset c s
  have hbefore := halike.after (c := c) (requests.take i)
  rcases hbefore.step (c := c) request with ⟨hreply, hqueries, hnext, -⟩
  have hstep : ∀ start, (run c start requests)[i]? =
      some ((Session.after c start (requests.take i)).step c request) := by
    intro start
    rw [run_getElem?, hi, Option.map_some]
  refine ⟨_, _, hstep _, hstep _, ?_, hqueries, hnext.lists, ?_⟩
  · intro hseen
    rcases hseen with hclock | hcollected
    · exact hreply hclock
    · rw [halike.after_eq hcollected]
  · intro hcollected
    rw [← after_take_succ c _ hi, ← after_take_succ c _ hi]
    exact halike.after_eq hcollected

/-- A session that was in use groups after a reset, a new one does not; neither finds anything.  With
the next collection they are equal. -/
theorem run_after_reset_small :
    let s := after smallCanvas {} [.collect (smallCycle [smallTracker 1 0.5] none), .finalize]
    let requests := [.process, .collect (smallCycle [smallTracker 2 0.5] (some 0)), .finalize]
    requests[2]? = some Request.finalize ∧
      ∃ a b, (run smallCanvas (s.step smallCanvas .reset).next requests)[2]? = some a ∧
        (run smallCanvas {} requests)[2]? = some b ∧ a.reply = b.reply ∧ a.next = b.next := by
  intro s requests
  have hi : requests[2]? = some Request.finalize := rfl
  rcases run_after_reset smallCanvas s hi with ⟨a, b, ha, hb, hreply, -, -, hnext⟩
  have hcollected : ∃ earlier ∈ requests.take 3, earlier.isCollect = true :=
    ⟨.collect (smallCycle [smallTracker 2 0.5] (some 0)), by simp [requests], rfl⟩
  exact ⟨hi, a, b, ha, hb, hreply (.inl rfl), hnext hcollected⟩

end Session
end TrackOverlay
