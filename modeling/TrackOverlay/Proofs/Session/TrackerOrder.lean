import TrackOverlay.Proofs.Reordering
import TrackOverlay.Proofs.Session.Moves

/-!
# TrackerOrder — the order of the trackers leaves no trace

The trackers of a cycle stand in some order, and its snapshots are kept in that order for as long as
the session keeps them.  Where no two trackers see the same object the order is not a fact about any
object, and nothing that is drawn depends on it: two sessions whose snapshots agree object by object
answer alike and stay so (`Shuffled.step`), and a reordered cycle leads from one session to two such
sessions (`Shuffled.of_reordered`).  `tracker_order_irrelevant` reads this off all later requests.
-/

namespace TrackOverlay
namespace Session

variable {c : Canvas} {s t : Session}

/-! ## Shuffled sessions -/

/-- Sessions that agree in all but how the snapshots of different objects are mixed. -/
structure Shuffled (s t : Session) : Prop where
  started_eq : t.started = s.started
  time_eq : t.time = s.time
  snapshots : Grouping.Matching Snapshot.identity s.snapshots t.snapshots
  groups_eq : t.groups = s.groups
  scene_eq : t.scene = s.scene

theorem Shuffled.groups_snapshots (h : Shuffled s t) :
    Snapshot.groups t.snapshots = Snapshot.groups s.snapshots := h.snapshots.groups_eq.symm

/-- Whether a request asks for the snapshots themselves. -/
def Request.listsSnapshots : Request → Bool
  | .readSnapshots => true
  | _ => false

/-! ## Steps of shuffled sessions -/

/-- What a collection takes does not depend on what was taken before. -/
theorem Shuffled.collect (h : Shuffled s t) (cycle : Cycle) :
    (t.collect c cycle).reply = (s.collect c cycle).reply ∧
      Shuffled (s.collect c cycle).next (t.collect c cycle).next := by
  cases houtcome : (cycle.collect c.channelCount).outcome with
  | error fault =>
      rw [collect_of_misfit houtcome, collect_of_misfit houtcome]
      exact ⟨rfl, rfl, rfl, h.snapshots, h.groups_eq, h.scene_eq⟩
  | ok taken =>
      rw [collect_of_taken houtcome, collect_of_taken houtcome]
      exact ⟨rfl, rfl, rfl, h.snapshots.append (.refl _ taken), h.groups_eq, h.scene_eq⟩

theorem Shuffled.process (h : Shuffled s t) :
    t.process.reply = s.process.reply ∧ Shuffled s.process.next t.process.next := by
  have hgroups := h.groups_snapshots
  cases hstarted : s.started with
  | true =>
      have hother : t.started = true := h.started_eq.trans hstarted
      simp only [Session.process, hstarted, hother, if_true, hgroups, true_and]
      exact ⟨rfl, h.time_eq, h.snapshots, rfl, h.scene_eq⟩
  | false =>
      have hother : t.started = false := h.started_eq.trans hstarted
      simp only [Session.process, hstarted, hother, Bool.false_eq_true, if_false, true_and]
      exact h

theorem Shuffled.render (h : Shuffled s t) :
    (t.render c).reply = (s.render c).reply ∧ Shuffled (s.render c).next (t.render c).next := by
  unfold Session.render
  rw [h.started_eq, h.groups_eq]
  split
  · cases c.draw s.groups with
    | error fault => exact ⟨rfl, h⟩
    | ok scene => exact ⟨rfl, rfl, h.time_eq, h.snapshots, rfl, rfl⟩
  · exact ⟨rfl, h⟩

/-- Shuffled sessions answer alike, unless they list their snapshots, and stay shuffled. -/
theorem Shuffled.step (h : Shuffled s t) (request : Request) :
    (request.listsSnapshots = false → (t.step c request).reply = (s.step c request).reply) ∧
      Shuffled (s.step c request).next (t.step c request).next := by
  cases request with
  | collect cycle =>
      rcases h.collect (c := c) cycle with ⟨hreply, hnext⟩
      exact ⟨fun _ => hreply, hnext⟩
  | process =>
      rcases h.process with ⟨hreply, hnext⟩
      exact ⟨fun _ => hreply, hnext⟩
  | render =>
      rcases h.render (c := c) with ⟨hreply, hnext⟩
      exact ⟨fun _ => hreply, hnext⟩
  | finalize =>
      rcases h.process.2.render (c := c) with ⟨hreply, hnext⟩
      exact ⟨fun _ => hreply, hnext⟩
  | reset => exact ⟨fun _ => rfl, h.started_eq, h.time_eq, .refl _ _, rfl, rfl⟩
  | readStarted => exact ⟨fun _ => by simp [Session.step, read, h.started_eq], h⟩
  | readTime => exact ⟨fun _ => by simp [Session.step, read, h.time_eq], h⟩
  | readChannels => exact ⟨fun _ => rfl, h⟩
  | readSnapshots => exact ⟨fun hlists => by simp [Request.listsSnapshots] at hlists, h⟩
  | readGroups => exact ⟨fun _ => by simp [Session.step, read, h.groups_eq], h⟩
  | readScene => exact ⟨fun _ => by simp [Session.step, read, h.scene_eq], h⟩

theorem Shuffled.after (h : Shuffled s t) (requests : List Request) :
    Shuffled (after c s requests) (after c t requests) :=
  after_relation h (fun request _ _ hshuffled => (hshuffled.step request).2) requests

/-! ## Reordered cycles -/

/-- A cycle is collected in every order of its trackers or in none. -/
theorem collect_reply_of_reordered {cycle other : Cycle} (h : Cycle.Reordered cycle other)
    {reply : Reply} (hreply : (s.step c (.collect cycle)).reply = .ok reply) :
    (s.step c (.collect other)).reply = .ok reply := by
  rcases collect_reply_eq_ok_iff.1 hreply with ⟨hdone, ⟨taken, htaken⟩, hwrites⟩
  rcases h.collect htaken with ⟨retaken, hretaken, -⟩
  rw [← h.detections_eq] at hwrites
  exact collect_reply_eq_ok_iff.2 ⟨hdone, ⟨retaken, hretaken⟩, hwrites⟩

/-- From one session, a cycle and a reordered one lead to shuffled sessions. -/
theorem Shuffled.of_reordered {cycle other : Cycle} (h : Cycle.Reordered cycle other)
    (hapart : cycle.SeesApart) (c : Canvas) (s : Session) :
    Shuffled (s.step c (.collect cycle)).next (s.step c (.collect other)).next := by
  cases houtcome : (cycle.collect c.channelCount).outcome with
  | ok taken =>
      rcases h.collect houtcome with ⟨retaken, hretaken, hperm⟩
      have htaken : Grouping.Matching Snapshot.identity taken retaken :=
        .of_perm hperm.symm (hapart.pairwise_taken houtcome)
      rw [Session.step, Session.step, collect_of_taken houtcome, collect_of_taken hretaken]
      exact ⟨rfl, h.time_eq, Grouping.Matching.append (.refl _ _) htaken, rfl, rfl⟩
  | error fault =>
      -- both are refused for a tracker, and then nothing but the clock is set
      cases hother : (other.collect c.channelCount).outcome with
      | ok taken =>
          rcases h.symm.collect hother with ⟨retaken, hretaken, -⟩
          simp [houtcome] at hretaken
      | error fault =>
          rw [Session.step, Session.step, collect_of_misfit houtcome, collect_of_misfit hother]
          exact ⟨rfl, h.time_eq, .refl _ _, rfl, rfl⟩

/-- A cycle and the same cycle with its trackers in another order, each with its own assignment, are
both collected or both refused.  If no two trackers see the same object, no later request can tell
which of the two it was: all replies, the groups and the scene are the same, and the snapshots are
the same in another order. -/
theorem tracker_order_irrelevant (c : Canvas) (s : Session) (cycle : Cycle)
    (σ : Equiv.Perm (Fin cycle.trackers.length)) :
    (∀ reply, (s.step c (.collect (cycle.reorder σ))).reply = .ok reply ↔
        (s.step c (.collect cycle)).reply = .ok reply) ∧
      (cycle.SeesApart → ∀ requests request,
        let original := after c s (.collect cycle :: requests)
        let permuted := after c s (.collect (cycle.reorder σ) :: requests)
        (request.listsSnapshots = false →
            (permuted.step c request).reply = (original.step c request).reply) ∧
          permuted.groups = original.groups ∧ permuted.scene = original.scene ∧
          permuted.started = original.started ∧ permuted.time = original.time ∧
          permuted.snapshots.Perm original.snapshots) := by
  have hreordered := cycle.reordered_reorder σ
  constructor
  · intro reply
    constructor
    · intro hreply
      exact collect_reply_of_reordered hreordered.symm hreply
    · intro hreply
      exact collect_reply_of_reordered hreordered hreply
  · intro hapart requests request original permuted
    have h : Shuffled original permuted := (Shuffled.of_reordered hreordered hapart c s).after requests
    exact ⟨(h.step request).1, h.groups_eq, h.scene_eq, h.started_eq, h.time_eq,
      h.snapshots.perm.symm⟩

theorem smallTracker_trackedObject (number : Nat) (total time : Float) :
    (smallTracker number total).trackedObject time = .ok ⟨.ofNat number, ⟨1.0, 2.0, 0.0⟩⟩ := rfl

/-- Two trackers change places, the first one with its detection.  The snapshots are then listed the
other way round, and the scene is the same. -/
theorem tracker_order_irrelevant_swapped :
    let cycle := smallCycle [smallTracker 2 0.5, smallTracker 1 0.25] (some 0)
    let σ : Equiv.Perm (Fin 2) := Equiv.swap 0 1
    let swapped := cycle.reorder σ
    let original := after smallCanvas {} [.collect cycle, .process]
    let permuted := after smallCanvas {} [.collect swapped, .process]
    cycle.SeesApart ∧ permuted.snapshots ≠ original.snapshots ∧ original.groups.length = 2 ∧
      (permuted.step smallCanvas .finalize).reply = (original.step smallCanvas .finalize).reply ∧
      permuted.snapshots.Perm original.snapshots := by
  intro cycle σ swapped original permuted
  have hapart : cycle.SeesApart := by
    refine List.Pairwise.cons ?_ (List.pairwise_singleton _ _)
    intro other hother a b ha hb
    rw [List.mem_singleton.1 hother, smallTracker_trackedObject] at hb
    rw [smallTracker_trackedObject] at ha
    rw [← Except.ok.inj ha, ← Except.ok.inj hb]
    decide
  have hirrelevant := (tracker_order_irrelevant smallCanvas {} cycle σ).2 hapart [.process]
    .finalize
  exact ⟨hapart, by decide, by decide, hirrelevant.1 rfl, hirrelevant.2.2.2.2.2⟩

end Session
end TrackOverlay
