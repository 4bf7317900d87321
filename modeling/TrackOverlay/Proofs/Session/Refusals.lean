import TrackOverlay.Proofs.Session.Growth
import TrackOverlay.Proofs.Session.Reset

/-!
# Refusals — what a refused request leaves behind

Collections and drawings can be refused, at any depth of their work, and then keep what the session
has accumulated.  What they do leave is small:

* a collection that is refused for a tracker has set the clock (`collect_next_of_refused`); one that is
  refused for the number of its channel alone, which a runtime may not write, has kept its snapshots as
  well (`collect_next_of_not_writes`);
* a refused drawing leaves nothing, and a refused finalization the groups that it made before the
  drawing (`render_next_of_refused`, `finalize_next_of_refused`).

The stored scene is therefore at all times the one that was answered last (`after_scene`).

The clock is set before a collection is known to succeed, so a session counts as started from the
first collection that was asked for, answered or not (`started_iff_asked`).
-/

namespace TrackOverlay
namespace Session

variable {c : Canvas} {s : Session} {request : Request} {fault : Fault}

/-! ## Refused requests -/

theorem process_started (s : Session) : s.process.next.started = s.started := by
  rw [process_next]

/-- The scene of a reply, or the one before if the reply has none. -/
def sceneOr (before : Scene) : Except Fault Reply → Scene
  | .ok (.scene scene) => scene
  | _ => before

/-- The scene on display after a request: an answered drawing replaces it, a reset takes it away. -/
def Request.display (request : Request) (reply : Except Fault Reply) (before : Scene) : Scene :=
  if request.isReset then []
  else if request.draws then sceneOr before reply
  else before

theorem collect_scene (c : Canvas) (s : Session) (cycle : Cycle) :
    (s.collect c cycle).next.scene = s.scene := by
  rw [collect_next]

theorem process_scene (s : Session) : s.process.next.scene = s.scene := by
  rw [process_next]

theorem Reachable.render_scene (hs : Reachable c s) :
    (s.render c).next.scene = sceneOr s.scene (s.render c).reply := by
  unfold render
  split
  · cases c.draw s.groups with
    | error fault => rfl
    | ok scene => rfl
  · next hready =>
      -- the empty reply is the stored scene, because without groups there is none
      have hscene : s.scene = [] := by
        cases hstarted : s.started with
        | false => rw [hs.eq_new hstarted]
        | true =>
            rcases hs.layers with ⟨drawn, grouped, h⟩
            exact h.scene_eq_nil_of_groups (by simpa [hstarted] using hready)
      exact hscene

theorem Reachable.step_scene (hs : Reachable c s) (request : Request) :
    (s.step c request).next.scene = request.display (s.step c request).reply s.scene := by
  cases request with
  | collect cycle => exact collect_scene c s cycle
  | process => exact process_scene s
  | render => exact hs.render_scene
  | finalize =>
      have hrender := (hs.step .process).render_scene
      rw [Session.step, process_scene] at hrender
      exact hrender
  | reset => rfl
  | _ => rfl

/-- On a runtime that writes one digit a channel with two has its snapshots kept, and is refused. -/
example :
    let canvas := { smallCanvas with digitLimit := some 1 }
    let cycle := { smallCycle [smallTracker 1 0.5] none with detections := ⟨0.5, 10, []⟩ }
    let refused := step canvas {} (.collect cycle)
    refused.reply = .error (.numeralTooLong 1) ∧ refused.next.snapshots.length = 1 := by decide

/-! ## The clock -/

theorem render_started (c : Canvas) (s : Session) : (s.render c).next.started = s.started := by
  rw [render_next]

theorem collect_started (c : Canvas) (s : Session) (cycle : Cycle) :
    (s.collect c cycle).next.started = true := by
  rw [collect_next]

theorem step_started (c : Canvas) (s : Session) (request : Request) :
    (s.step c request).next.started = (s.started || request.isCollect) := by
  cases request with
  | collect cycle => exact (collect_started c s cycle).trans (Bool.or_true _).symm
  | process => exact (process_started s).trans (Bool.or_false _).symm
  | render => exact (render_started c s).trans (Bool.or_false _).symm
  | finalize =>
      have hrender := render_started c s.process.next
      rw [process_started] at hrender
      exact hrender.trans (Bool.or_false _).symm
  | _ => exact (Bool.or_false _).symm

theorem after_started (c : Canvas) (s : Session) (requests : List Request) :
    (after c s requests).started = (s.started || requests.any Request.isCollect) := by
  induction requests generalizing s with
  | nil => simp
  | cons request rest ih => rw [after_cons, ih, step_started, List.any_cons, Bool.or_assoc]

/-- A collection of the run was answered. -/
def Collected (c : Canvas) (requests : List Request) : Prop :=
  ∃ before cycle rest, requests = before ++ .collect cycle :: rest ∧
    ((after c {} before).step c (.collect cycle)).reply = .ok .done

/-- A session counts as started once a collection was asked for.  That it was answered can be told
from this exactly for runs in which none was asked for or one was answered. -/
theorem started_iff_asked (c : Canvas) (requests : List Request) :
    ((after c {} requests).started = true ↔ ∃ request ∈ requests, request.isCollect = true) ∧
      (((after c {} requests).started = true ↔ Collected c requests) ↔
        (∀ request ∈ requests, request.isCollect = false) ∨ Collected c requests) := by
  have hasked : (after c {} requests).started = true ↔
      ∃ request ∈ requests, request.isCollect = true := by
    rw [after_started, Bool.false_or, List.any_eq_true]
  have hcollected : Collected c requests → ∃ request ∈ requests, request.isCollect = true := by
    rintro ⟨before, cycle, rest, rfl, -⟩
    exact ⟨.collect cycle, by simp, rfl⟩
  refine ⟨hasked, ?_⟩
  rw [hasked]
  constructor
  · intro htells
    by_cases hcollect : Collected c requests
    · exact .inr hcollect
    · refine .inl fun request hrequest => ?_
      by_contra hne
      exact hcollect (htells.1 ⟨request, hrequest, by simpa using hne⟩)
  · rintro (hnone | hcollect)
    · constructor
      · rintro ⟨request, hrequest, htrue⟩
        simp [hnone request hrequest] at htrue
      · exact hcollected
    · exact ⟨fun _ => hcollect, hcollected⟩

/-- A first collection that is refused starts the session, although nothing was collected. -/
theorem started_without_collected :
    let requests := [Request.collect (smallCycle [smallTracker 1 0.5] (some 7))]
    (after smallCanvas {} requests).started = true ∧ ¬ Collected smallCanvas requests := by
  intro requests
  refine ⟨rfl, ?_⟩
  rintro ⟨before, cycle, rest, hrequests, hreply⟩
  cases before with
  | nil =>
      have hrefused : (step smallCanvas {} (.collect (smallCycle [smallTracker 1 0.5] (some 7)))).reply =
          .error (.violation (.assignmentIndex 0 7 1)) := rfl
      rw [← (List.cons.inj hrequests).1, after_nil, hrefused] at hreply
      simp at hreply
  | cons first before => simp [requests] at hrequests

end Session
end TrackOverlay
