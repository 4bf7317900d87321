import TrackOverlay.Proofs.Session.Refusals

/-!
# Impasse — a refused drawing is refused until the next reset

A drawing is refused because of the first snapshot of a group, the *anchor*, and anchors stay: groups
only go on, and new groups come beside the old ones (`Covers.mem_anchors`).  So once a drawing was
refused, nothing but a reset helps (`Impasse.step`, `Impasse.after`).  Collecting more does not, not
even of the same object, and the scene that was stored before remains.

A reset does help, because it forgets the anchors with everything else (`draws_after_reset`).
-/

namespace TrackOverlay
namespace Session

variable {c : Canvas} {s : Session} {request : Request} {shown : List Snapshot}

/-! ## Anchors that cannot be labelled -/

/-- The first snapshots of the groups of a list. -/
def anchorsOf (snapshots : List Snapshot) : List Snapshot :=
  (Snapshot.groups snapshots).filterMap List.head?

/-- The anchors of a list are anchors of every longer one. -/
theorem mem_anchorsOf_of_prefix {more : List Snapshot} (h : shown <+: more) {anchor : Snapshot}
    (hanchor : anchor ∈ anchorsOf shown) : anchor ∈ anchorsOf more := by
  rcases List.mem_filterMap.1 hanchor with ⟨group, hgroup, hhead⟩
  rcases Grouping.exists_prefix_of_mem_groups h hgroup with ⟨other, hother, hprefix⟩
  refine List.mem_filterMap.2 ⟨other, hother, ?_⟩
  -- the groups begin alike, so they have the same first snapshot
  rcases hprefix with ⟨rest, rfl⟩
  rw [List.head?_append, hhead, Option.some_or]

theorem Covers.mem_anchors (h : Covers shown s) {anchor : Snapshot}
    (hanchor : anchor ∈ anchorsOf shown) : anchor ∈ s.anchors := by
  rcases h with ⟨more, hshown, -, hgroups⟩
  rw [anchors, hgroups]
  exact mem_anchorsOf_of_prefix hshown hanchor

/-- A drawing request is refused exactly if one of the anchors that it leaves has no label. -/
theorem Reachable.draws_refused_iff (hs : Reachable c s) (hdraws : request.draws = true) :
    (∃ fault, (s.step c request).reply = .error fault) ↔
      ∃ anchor ∈ (s.step c request).next.anchors, (c.percentFault? anchor).isSome = true := by
  have hfault : Outcome.fault? (s.step c request).reply =
      ((s.step c request).next.anchors.findSome? c.percentFault?).map Fault.percentage := by
    rw [hs.draws_reply hdraws, Outcome.fault?_map, (hs.step request).fault?_draw]
  rw [← List.findSome?_isSome_iff]
  constructor
  · rintro ⟨fault, hreply⟩
    rw [Outcome.fault?_eq_some_iff.2 hreply] at hfault
    rw [← Option.isSome_map (f := Fault.percentage), ← hfault]
    rfl
  · intro hsome
    rcases Option.isSome_iff_exists.1 hsome with ⟨reason, hreason⟩
    rw [hreason, Option.map_some] at hfault
    exact ⟨_, Outcome.fault?_eq_some_iff.1 hfault⟩

/-! ## The impasse -/

/-- A reachable session that shows an anchor without a label. -/
structure Impasse (c : Canvas) (s : Session) : Prop where
  reachable : Reachable c s
  anchor : ∃ shown, Covers shown s ∧
    ∃ anchor ∈ anchorsOf shown, (c.percentFault? anchor).isSome = true

theorem Impasse.step (h : Impasse c s) (hreset : request.isReset = false) :
    Impasse c (s.step c request).next := by
  rcases h.anchor with ⟨shown, hcovers, hanchor⟩
  exact ⟨h.reachable.step request, shown, hcovers.step hreset, hanchor⟩

/-- No drawing gets through. -/
theorem Impasse.refused (h : Impasse c s) (hdraws : request.draws = true) :
    ∃ fault, (s.step c request).reply = .error fault := by
  -- the request itself only adds to the groups, so the anchor is still there when it draws
  rcases (h.step (Request.isReset_of_draws hdraws)).anchor with ⟨shown, hcovers, anchor, hmem, hsome⟩
  exact (h.reachable.draws_refused_iff hdraws).2 ⟨anchor, hcovers.mem_anchors hmem, hsome⟩

theorem Impasse.step_scene (h : Impasse c s) (hreset : request.isReset = false) :
    (s.step c request).next.scene = s.scene := by
  rw [h.reachable.step_scene, Request.display, hreset]
  cases hdraws : request.draws with
  | false => rfl
  | true =>
      rcases h.refused hdraws with ⟨fault, hreply⟩
      rw [hreply]
      rfl

theorem Impasse.after {requests : List Request} (h : Impasse c s)
    (hreset : ∀ request ∈ requests, request.isReset = false) :
    Impasse c (Session.after c s requests) ∧ (Session.after c s requests).scene = s.scene := by
  -- the scene never moves because every session on the way is in the impasse
  refine after_invariant (P := fun t => Impasse c t ∧ t.scene = s.scene) ⟨h, rfl⟩ ?_
  rintro t ⟨himpasse, hscene⟩ request hmem
  have hkeeps := hreset request hmem
  exact ⟨himpasse.step hkeeps, (himpasse.step_scene hkeeps).trans hscene⟩

/-- A refused drawing leads into the impasse. -/
theorem Reachable.impasse (hs : Reachable c s) (hdraws : request.draws = true) {fault : Fault}
    (hrefused : (s.step c request).reply = .error fault) : Impasse c (s.step c request).next := by
  have hnext := hs.step request
  rcases (hs.draws_refused_iff hdraws).1 ⟨fault, hrefused⟩ with ⟨anchor, hanchor, hsome⟩
  rcases hnext.exists_covers with ⟨shown, hgroups, hcovers⟩
  rw [anchors, hgroups] at hanchor
  exact ⟨hnext, shown, hcovers, anchor, hanchor, hsome⟩

/-! ## The way out -/

theorem after_snapshots_eq_nil {requests : List Request} (hs : s.snapshots = [])
    (htaken : ∀ request ∈ requests, request.taken c = []) :
    (after c s requests).snapshots = [] := by
  refine after_invariant (P := fun t => t.snapshots = []) hs ?_
  intro t ht request hmem
  rw [step_snapshots, ht, htaken request hmem]
  simp

/-- Until something is taken after a reset, drawings show nothing. -/
theorem draws_after_reset (c : Canvas) (before : List Request) {quiet : List Request}
    (hquiet : ∀ request ∈ quiet, request.taken c = []) (hdraws : request.draws = true) :
    ((after c {} (before ++ .reset :: quiet)).step c request).reply = .ok (.scene []) := by
  have hs := reachable_after c (before ++ .reset :: quiet)
  have hsnapshots : (after c {} (before ++ .reset :: quiet)).snapshots = [] := by
    rw [after_append, after_cons]
    exact after_snapshots_eq_nil rfl hquiet
  have hnext : ((after c {} (before ++ .reset :: quiet)).step c request).next.snapshots = [] := by
    rw [step_snapshots, hsnapshots]
    cases request with
    | render => rfl
    | finalize => rfl
    | _ => simp [Request.draws] at hdraws
  rcases (hs.step request).layers with ⟨drawn, grouped, h⟩
  rw [hs.draws_reply hdraws, h.groups_eq_nil hnext]
  rfl

/-- Once a drawing was refused, every later one is, whatever is requested in between, and the stored
scene stays what it was before.  After a reset drawings are answered again. -/
theorem refused_until_reset (c : Canvas) (before between : List Request) {first : Request}
    (hfirst : first.draws = true) {fault : Fault}
    (hrefused : ((after c {} before).step c first).reply = .error fault)
    (hbetween : ∀ request ∈ between, request.isReset = false) :
    let s := after c {} (before ++ first :: between)
    s.scene = (after c {} before).scene ∧
      (∀ second : Request, second.draws = true →
        (∃ other, (s.step c second).reply = .error other) ∧
          (s.step c second).next.scene = (after c {} before).scene) ∧
      ∀ quiet last, (∀ request ∈ quiet, Request.taken c request = []) → Request.draws last = true →
        ((after c s (.reset :: quiet)).step c last).reply = .ok (.scene []) := by
  intro s
  have hbefore := reachable_after c before
  have hstart : s = after c ((after c {} before).step c first).next between := by
    simp only [s, after_append, after_cons]
  have himpasse := hbefore.impasse hfirst hrefused
  have hscene : ((after c {} before).step c first).next.scene = (after c {} before).scene := by
    rw [hbefore.step_scene, Request.display, Request.isReset_of_draws hfirst, hfirst, hrefused]
    rfl
  rcases himpasse.after hbetween with ⟨hs, hkept⟩
  rw [← hstart] at hs hkept
  refine ⟨hkept.trans hscene, ?_, ?_⟩
  · intro second hsecond
    have hstep := hs.step_scene (Request.isReset_of_draws hsecond)
    exact ⟨hs.refused hsecond, hstep.trans (hkept.trans hscene)⟩
  · intro quiet last hquiet hlast
    have hreset := draws_after_reset c (before ++ first :: between) hquiet hlast
    rwa [after_append] at hreset

/-- Neither a better probability of the same object nor another object ends an impasse. -/
theorem refused_until_reset_small :
    let collect := fun numbers total =>
      Request.collect (smallCycle (numbers.map fun n => smallTracker n total) none)
    let before := [collect [2] 0.5, .finalize, collect [3] (0.0 / 0.0)]
    let between := [collect [3, 1] 0.5, .process]
    let s := after smallCanvas {} (before ++ .finalize :: between)
    ((after smallCanvas {} before).step smallCanvas .finalize).reply = .error (.percentage .nan) ∧
      (∃ other, (s.step smallCanvas .render).reply = .error other) ∧
      s.scene = (after smallCanvas {} before).scene ∧ s.scene.length = 4 ∧
      ((after smallCanvas s [.reset]).step smallCanvas .render).reply = .ok (.scene []) := by
  intro collect before between s
  have hrefused : ((after smallCanvas {} before).step smallCanvas .finalize).reply =
      .error (.percentage .nan) := by decide
  have hbetween : ∀ request ∈ between, request.isReset = false := by decide
  rcases refused_until_reset smallCanvas before between rfl hrefused hbetween with
    ⟨hscene, hlater, hreset⟩
  exact ⟨hrefused, (hlater .render rfl).1, hscene, by decide,
    hreset [] .render (fun _ h => by simp at h) rfl⟩

end Session
end TrackOverlay
