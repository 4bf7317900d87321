import Mathlib.Logic.Relation
import TrackOverlay.Proofs.Drawability
import TrackOverlay.Session

/-!
# Moves — what a request can do to a session

A session changes in five ways only, its *moves*: it notes that a collection was asked for, keeps the
snapshots of trackers that all fit, groups, keeps a drawn scene, or forgets.  Requests are
chains of moves (`step_moves`), refused ones included, so a property that every move preserves holds
of every session that a run can reach (`Reachable.invariant`).

A collection whose trackers fit keeps their snapshots whether or not its line can be written
(`collect_of_taken`); it is answered only if it can (`collect_reply_eq_done_iff`).

The replies of drawing requests are those of a drawing without any session (`Reachable.render_reply`,
`Reachable.finalize_reply`): the early answers of a session that has nothing to draw make no
difference.
-/

namespace TrackOverlay

/-- The runtime writes the number: it has no more digits than the limit, if there is one. -/
def Canvas.Writes (c : Canvas) (n : Int) : Prop :=
  ∀ digits, c.digitLimit = some digits → (Nat.toDigits 10 n.natAbs).length ≤ digits

namespace Session

variable {c : Canvas} {s t : Session} {cycle : Cycle} {fault : Fault} {taken : List Snapshot}

/-! ## Collections -/

theorem exists_collectedLine_iff (count : Nat) :
    (∃ line, collectedLine c cycle count = .ok line) ↔ c.Writes cycle.detections.channel := by
  unfold collectedLine Numeral.write Canvas.Writes
  cases c.digitLimit with
  | none => simp
  | some digits =>
      by_cases hfits : (Nat.toDigits 10 cycle.detections.channel.natAbs).length ≤ digits
      · simp [hfits]
      · simp [hfits]

/-- A tracker that does not fit has the collection refused, and nothing is kept of it. -/
theorem collect_of_misfit (h : (cycle.collect c.channelCount).outcome = .error fault) :
    s.collect c cycle =
      ⟨.error fault, refusedLines cycle.time fault, (cycle.collect c.channelCount).queries,
        { s with started := true, time := cycle.time }⟩ := by
  simp [collect, h]

/-- What is taken is kept, whatever becomes of the line. -/
theorem collect_of_taken (h : (cycle.collect c.channelCount).outcome = .ok taken) :
    s.collect c cycle =
      ⟨(collectedLine c cycle taken.length).map fun _ => .done,
        (collectedLine c cycle taken.length).toOption.toList, (cycle.collect c.channelCount).queries,
        { s with started := true, time := cycle.time, snapshots := s.snapshots ++ taken }⟩ := by
  simp only [collect, h]
  cases collectedLine c cycle taken.length with
  | error fault => rfl
  | ok line => rfl

theorem collect_queries (c : Canvas) (s : Session) (cycle : Cycle) :
    (s.collect c cycle).queries = (cycle.collect c.channelCount).queries := by
  cases houtcome : (cycle.collect c.channelCount).outcome with
  | error fault => rw [collect_of_misfit houtcome]
  | ok taken => rw [collect_of_taken houtcome]

/-- A collection is answered exactly if its trackers fit and the number of its channel can be written;
what the session has accumulated does not matter. -/
theorem collect_reply_eq_ok_iff {reply : Reply} :
    (s.step c (.collect cycle)).reply = .ok reply ↔
      reply = .done ∧ (∃ taken, (cycle.collect c.channelCount).outcome = .ok taken) ∧
        c.Writes cycle.detections.channel := by
  rw [step]
  cases houtcome : (cycle.collect c.channelCount).outcome with
  | error fault => simp [collect_of_misfit houtcome]
  | ok taken =>
      rw [collect_of_taken houtcome, ← exists_collectedLine_iff taken.length]
      cases collectedLine c cycle taken.length with
      | error fault => simp [Except.map]
      | ok line => simp [Except.map, eq_comm]

theorem collect_reply_eq_done_iff :
    (s.step c (.collect cycle)).reply = .ok .done ↔
      (∃ taken, (cycle.collect c.channelCount).outcome = .ok taken) ∧
        c.Writes cycle.detections.channel :=
  collect_reply_eq_ok_iff.trans (and_iff_right rfl)

/-! ## What requests leave alone -/

/-- A collection changes nothing but the clock and the snapshots. -/
theorem collect_next (c : Canvas) (s : Session) (cycle : Cycle) :
    (s.collect c cycle).next =
      { s with
        started := true
        time := cycle.time
        snapshots := (s.collect c cycle).next.snapshots } := by
  cases houtcome : (cycle.collect c.channelCount).outcome with
  | error fault => rw [collect_of_misfit houtcome]
  | ok taken => rw [collect_of_taken houtcome]

/-- Grouping changes nothing but the groups. -/
theorem process_next (s : Session) :
    s.process.next = { s with groups := s.process.next.groups } := by
  unfold process
  split
  · rfl
  · rfl

/-- A drawing changes nothing but the scene. -/
theorem render_next (c : Canvas) (s : Session) :
    (s.render c).next = { s with scene := (s.render c).next.scene } := by
  unfold render
  split
  · cases c.draw s.groups with
    | error fault => rfl
    | ok scene => rfl
  · rfl

/-! ## Moves -/

/-- One change of a session. -/
inductive Move (c : Canvas) (s : Session) : Session → Prop
  | note (time : Float) :
      Move c s { s with started := true, time := time }
  | take {cycle : Cycle} {taken : List Snapshot} (hstarted : s.started = true)
      (htaken : (cycle.collect c.channelCount).outcome = .ok taken) :
      Move c s { s with snapshots := s.snapshots ++ taken }
  | group (hstarted : s.started = true) :
      Move c s { s with groups := Snapshot.groups s.snapshots }
  | draw {scene : Scene} (hstarted : s.started = true) (hdraw : c.draw s.groups = .ok scene) :
      Move c s { s with scene := scene }
  | clear :
      Move c s { s with snapshots := [], groups := [], scene := [] }

/-- A chain of moves. -/
abbrev Moves (c : Canvas) : Session → Session → Prop := Relation.ReflTransGen (Move c)

theorem collect_moves (c : Canvas) (s : Session) (cycle : Cycle) :
    Moves c s (s.collect c cycle).next := by
  have hnote : Moves c s { s with started := true, time := cycle.time } := .single (.note cycle.time)
  cases houtcome : (cycle.collect c.channelCount).outcome with
  | error fault =>
      rw [collect_of_misfit houtcome]
      exact hnote
  | ok taken =>
      rw [collect_of_taken houtcome]
      -- the clock first, so that `take` finds the session started
      exact hnote.tail (Move.take rfl houtcome)

theorem process_moves (c : Canvas) (s : Session) : Moves c s s.process.next := by
  by_cases hstarted : s.started = true
  · simpa [process, hstarted] using Relation.ReflTransGen.single (Move.group (c := c) hstarted)
  · simpa [process, hstarted] using Relation.ReflTransGen.refl

theorem render_moves (c : Canvas) (s : Session) : Moves c s (s.render c).next := by
  unfold render
  split
  · next hready =>
      have hstarted : s.started = true := (Bool.and_eq_true_iff.1 hready).1
      cases hdraw : c.draw s.groups with
      | error fault => exact .refl
      | ok scene => exact .single (.draw hstarted hdraw)
  · exact .refl

/-- Every request is a chain of moves, whether it is answered or refused. -/
theorem step_moves (c : Canvas) (s : Session) (request : Request) :
    Moves c s (s.step c request).next := by
  cases request with
  | collect cycle => exact collect_moves c s cycle
  | process => exact process_moves c s
  | render => exact render_moves c s
  | finalize => exact (process_moves c s).trans (render_moves c s.process.next)
  | reset => exact .single .clear
  | _ => exact .refl

/-! ## Runs -/

@[simp] theorem after_nil (c : Canvas) (s : Session) : after c s [] = s := rfl

@[simp] theorem after_cons (c : Canvas) (s : Session) (request : Request) (rest : List Request) :
    after c s (request :: rest) = after c (s.step c request).next rest := rfl

theorem after_append (c : Canvas) (s : Session) (first rest : List Request) :
    after c s (first ++ rest) = after c (after c s first) rest := List.foldl_append

theorem after_concat (c : Canvas) (s : Session) (requests : List Request) (request : Request) :
    after c s (requests ++ [request]) = ((after c s requests).step c request).next :=
  after_append c s requests [request]

/-- What a session has and every request of a run preserves, it has after the run. -/
theorem after_invariant {P : Session → Prop} {requests : List Request} (hstart : P s)
    (hstep : ∀ s, P s → ∀ request ∈ requests, P (s.step c request).next) :
    P (after c s requests) := List.foldlRecOn requests _ hstart hstep

/-- What two sessions have in common and every request preserves, they have after a run. -/
theorem after_relation {R : Session → Session → Prop} (hstart : R s t)
    (hstep : ∀ request s t, R s t → R (s.step c request).next (t.step c request).next)
    (requests : List Request) : R (after c s requests) (after c t requests) :=
  List.foldl_rel hstart fun request _ => hstep request

/-- The sessions that a run can reach from a new one. -/
def Reachable (c : Canvas) (s : Session) : Prop := ∃ requests, after c {} requests = s

theorem reachable_after (c : Canvas) (requests : List Request) :
    Reachable c (after c {} requests) := ⟨requests, rfl⟩

theorem Reachable.step (hs : Reachable c s) (request : Request) :
    Reachable c (s.step c request).next := by
  rcases hs with ⟨requests, rfl⟩
  exact ⟨requests ++ [request], after_concat c {} requests request⟩

/-- What a new session has and every move preserves, every reachable session has. -/
theorem Reachable.invariant {P : Session → Prop} (hnew : P {})
    (hmove : ∀ {s t}, P s → Move c s t → P t) (hs : Reachable c s) : P s := by
  have hmoves : ∀ {s t}, P s → Moves c s t → P t := by
    intro s t hP hchain
    induction hchain with
    | refl => exact hP
    | tail _ hlast ih => exact hmove ih hlast
  rcases hs with ⟨requests, rfl⟩
  exact after_invariant hnew fun s hP request _ => hmoves hP (step_moves c s request)

/-! ## Sessions without any collection -/

theorem Reachable.eq_new (hs : Reachable c s) (hstarted : s.started = false) : s = {} := by
  refine Reachable.invariant (P := fun s => s.started = false → s = {}) (fun _ => rfl) ?_ hs hstarted
  intro s t ih hmove hfalse
  -- only clearing leaves a session that was never started as it was
  cases hmove with
  | note time => simp at hfalse
  | take htrue => simp [htrue] at hfalse
  | group htrue => simp [htrue] at hfalse
  | draw htrue => simp [htrue] at hfalse
  | clear =>
      have hnew : s = {} := ih hfalse
      subst hnew
      rfl

/-! ## Drawing requests -/

theorem render_reply_of_started (h : s.started = true) :
    (s.render c).reply = (c.draw s.groups).map Reply.scene := by
  cases hgroups : s.groups with
  | nil => simp [render, hgroups, Except.map]
  | cons group rest =>
      cases hdraw : c.draw (group :: rest) with
      | error fault => simp [render, h, hgroups, hdraw, Except.map]
      | ok scene => simp [render, h, hgroups, hdraw, Except.map]

theorem Reachable.render_reply (hs : Reachable c s) :
    (s.step c .render).reply = (c.draw s.groups).map Reply.scene := by
  cases hstarted : s.started with
  | true => exact render_reply_of_started hstarted
  | false =>
      have hnew : s = {} := hs.eq_new hstarted
      subst hnew
      rfl

theorem Reachable.finalize_reply (hs : Reachable c s) :
    (s.step c .finalize).reply = (c.draw (Snapshot.groups s.snapshots)).map Reply.scene := by
  cases hstarted : s.started with
  | true =>
      have hprocess : s.process.next = { s with groups := Snapshot.groups s.snapshots } := by
        simp [process, hstarted]
      have hrender : (s.step c .finalize).reply = (s.process.next.render c).reply := rfl
      rw [hrender, hprocess]
      exact render_reply_of_started hstarted
  | false =>
      have hnew : s = {} := hs.eq_new hstarted
      subst hnew
      rfl

/-! ## A small overlay

One canvas with a single channel, and cycles for it that are small enough to be followed by hand.
-/

theorem smallName_ne : "Lc" ≠ "" := by decide

/-- A canvas with one channel. -/
def smallCanvas : Canvas := { frame := "map", channels := [⟨0, "lidar", "Lc", smallName_ne⟩] }

/-- The number of its channel is short enough for the runtime. -/
theorem smallCanvas_writes : smallCanvas.Writes 0 := by
  intro digits hdigits
  cases hdigits
  decide

/-- A tracker with a number for its identity. -/
def smallTracker (number : Nat) (total : Float) : Tracker :=
  .stationary (toString number) [0.5] total (.ofNat number) (.ofVector [1.0, 2.0, 0.0])

/-- A cycle with one detection, which the first tracker may be assigned. -/
def smallCycle (trackers : List Tracker) (assigned : Option Int) : Cycle where
  time := 0.5
  trackers := trackers
  detections := ⟨0.5, 0, [⟨.ofNat 1000, ⟨1.0, 2.0, 0.5⟩⟩]⟩
  assignment := .ofPairs [(0, assigned)]

end Session
end TrackOverlay
