import TrackOverlay.Proofs.Session.Layers

/-!
# RenderFaults — when a session cannot draw

What a session keeps was checked when it was collected, and those checks cover the checks of the
drawing: every snapshot of a reachable session fits the channels of its canvas (`Reachable.fits`),
however many cycles it was collected in.  The one thing that passes a collection and stops a drawing
is a probability without a percentage, and it does so only on the label of a group, which shows the
first snapshot of the group (`render_fails_by_percentage`).
-/

namespace TrackOverlay
namespace Session

variable {c : Canvas} {s : Session}

/-! ## Fitting snapshots -/

theorem Reachable.fits (hs : Reachable c s) : ∀ x ∈ s.snapshots, x.Fits c.channelCount := by
  refine Reachable.invariant (P := fun s => ∀ x ∈ s.snapshots, x.Fits c.channelCount)
    (fun x hx => by simp at hx) ?_ hs
  intro s t ih hmove
  cases hmove with
  | note time => exact ih
  | take hstarted htaken =>
      intro x hx
      rcases List.mem_append.1 hx with hx | hx
      · exact ih x hx
      · exact Cycle.fits_of_mem_collect htaken hx
  | group hstarted => exact ih
  | draw hstarted hdraw => exact ih
  | clear =>
      intro x hx
      simp at hx

theorem Reachable.mem_snapshots_of_mem_group (hs : Reachable c s) {group : List Snapshot}
    (hgroup : group ∈ s.groups) {x : Snapshot} (hx : x ∈ group) : x ∈ s.snapshots := by
  rcases hs.layers with ⟨drawn, grouped, h⟩
  rw [h.groups_eq] at hgroup
  exact List.mem_of_mem_take (Grouping.mem_of_mem_groups hgroup hx)

theorem Reachable.fits_of_mem_group (hs : Reachable c s) :
    ∀ group ∈ s.groups, ∀ x ∈ group, x.Fits c.channelCount := by
  intro group hgroup x hx
  exact hs.fits x (hs.mem_snapshots_of_mem_group hgroup hx)

/-! ## Anchors -/

/-- The first snapshots of the groups. -/
def anchors (s : Session) : List Snapshot := s.groups.filterMap List.head?

theorem Reachable.pairwise_anchors (hs : Reachable c s) :
    s.anchors.Pairwise fun a b => a.identity < b.identity := by
  rcases hs.layers with ⟨drawn, grouped, h⟩
  have hgroups := Grouping.pairwise_groups Snapshot.identity (s.snapshots.take grouped)
  rw [anchors, h.groups_eq, List.pairwise_filterMap]
  refine hgroups.imp ?_
  intro g g' hlt a ha b hb
  exact hlt a (List.mem_of_head? ha) b (List.mem_of_head? hb)

/-! ## Faults of drawings -/

theorem Reachable.fault?_draw (hs : Reachable c s) :
    Outcome.fault? (c.draw s.groups) =
      (s.anchors.findSome? c.percentFault?).map Fault.percentage :=
  Canvas.fault?_draw_of_fits hs.fits_of_mem_group

theorem Reachable.render_eq_error_iff (hs : Reachable c s) {fault : Fault} :
    (s.step c .render).reply = .error fault ↔
      ∃ reason, s.anchors.findSome? c.percentFault? = some reason ∧
        Fault.percentage reason = fault := by
  calc (s.step c .render).reply = .error fault
      ↔ Outcome.fault? (s.step c .render).reply = some fault := Outcome.fault?_eq_some_iff.symm
    _ ↔ Outcome.fault? (c.draw s.groups) = some fault := by
        rw [hs.render_reply, Outcome.fault?_map]
    _ ↔ (s.anchors.findSome? c.percentFault?).map Fault.percentage = some fault := by
        rw [hs.fault?_draw]
    _ ↔ _ := Option.map_eq_some_iff

theorem Reachable.percentage_of_render_eq_error (hs : Reachable c s) {fault : Fault}
    (hfault : (s.step c .render).reply = .error fault) :
    ∃ reason, Fault.percentage reason = fault := by
  rcases hs.render_eq_error_iff.1 hfault with ⟨reason, -, hreason⟩
  exact ⟨reason, hreason⟩

theorem isSome_percentFault?_iff (p : Float) :
    (percentFault? p).isSome ↔
      Binary64.ofFloat (p * 100.0) = .nan ∨
        ∃ negative, Binary64.ofFloat (p * 100.0) = .infinite negative := by
  unfold percentFault?
  cases Binary64.ofFloat (p * 100.0) with
  | nan => simp
  | infinite negative => simp
  | finite negative mantissa exponent => simp

theorem mem_anchors_iff {anchor : Snapshot} :
    anchor ∈ s.anchors ↔ ∃ group ∈ s.groups, group.head? = some anchor := by
  simp [anchors]

theorem Reachable.exists_render_eq_error_iff (hs : Reachable c s) :
    (∃ fault, (s.step c .render).reply = .error fault) ↔
      ∃ anchor ∈ s.anchors, ∃ p ∈ c.shownProbabilities anchor, (percentFault? p).isSome := by
  constructor
  · intro hfails
    rcases hfails with ⟨fault, hfault⟩
    rcases hs.render_eq_error_iff.1 hfault with ⟨reason, hreason, -⟩
    rcases List.exists_of_findSome?_eq_some hreason with ⟨anchor, hanchor, hlabel⟩
    rcases List.exists_of_findSome?_eq_some hlabel with ⟨p, hp, hpercent⟩
    exact ⟨anchor, hanchor, p, hp, by simp [hpercent]⟩
  · intro hshown
    rcases hshown with ⟨anchor, hanchor, p, hp, hpercent⟩
    have hlabel : (c.percentFault? anchor).isSome := List.findSome?_isSome_iff.2 ⟨p, hp, hpercent⟩
    have hsome : (s.anchors.findSome? c.percentFault?).isSome :=
      List.findSome?_isSome_iff.2 ⟨anchor, hanchor, hlabel⟩
    rcases Option.isSome_iff_exists.1 hsome with ⟨reason, hreason⟩
    exact ⟨.percentage reason, hs.render_eq_error_iff.2 ⟨reason, hreason, rfl⟩⟩

theorem Reachable.render_eq_error_iff_least (hs : Reachable c s) {fault : Fault} :
    (s.step c .render).reply = .error fault ↔
      ∃ anchor ∈ s.anchors, ∃ reason, c.percentFault? anchor = some reason ∧
        fault = .percentage reason ∧
        ∀ other ∈ s.anchors, other.identity < anchor.identity → c.percentFault? other = none := by
  rw [hs.render_eq_error_iff]
  constructor
  · intro hfirst
    rcases hfirst with ⟨reason, hreason, rfl⟩
    have hleast := (Grouping.findSome?_eq_some_iff_of_pairwise hs.pairwise_anchors).1 hreason
    rcases hleast with ⟨anchor, hanchor, hlabel, hless⟩
    exact ⟨anchor, hanchor, reason, hlabel, rfl, hless⟩
  · intro hleast
    rcases hleast with ⟨anchor, hanchor, reason, hlabel, rfl, hless⟩
    have hreason := (Grouping.findSome?_eq_some_iff_of_pairwise hs.pairwise_anchors).2
      ⟨anchor, hanchor, hlabel, hless⟩
    exact ⟨reason, hreason, rfl⟩

/-- A session fails to draw exactly if the label of a group cannot show a probability of the first
snapshot of the group.  The least group decides, in it the total before the channels. -/
theorem render_fails_by_percentage (hs : Reachable c s) :
    ((∀ v, (s.step c .render).reply ≠ .error (.violation v)) ∧
        (∀ reason, (s.step c .render).reply ≠ .error (.index reason)) ∧
        (s.step c .render).reply ≠ .error .itemMissing) ∧
      ((∃ fault, (s.step c .render).reply = .error fault) ↔
        ∃ group ∈ s.groups, ∃ anchor, group.head? = some anchor ∧
          ∃ p ∈ c.shownProbabilities anchor,
            Binary64.ofFloat (p * 100.0) = .nan ∨
              ∃ negative, Binary64.ofFloat (p * 100.0) = .infinite negative) ∧
      ∀ fault, (s.step c .render).reply = .error fault ↔
        ∃ anchor ∈ s.anchors, ∃ reason,
          (c.shownProbabilities anchor).findSome? percentFault? = some reason ∧
            fault = .percentage reason ∧
            ∀ other ∈ s.anchors, other.identity < anchor.identity →
              (c.shownProbabilities other).findSome? percentFault? = none := by
  -- every fault of a drawing is one of a percentage
  have hother : ∀ {fault : Fault}, (∀ reason, Fault.percentage reason ≠ fault) →
      (s.step c .render).reply ≠ .error fault := by
    intro fault hne hfault
    rcases hs.percentage_of_render_eq_error hfault with ⟨reason, hreason⟩
    exact hne reason hreason
  refine ⟨⟨?_, ?_, ?_⟩, ?_, fun fault => hs.render_eq_error_iff_least⟩
  · exact fun v => hother fun reason h => nomatch h
  · exact fun index => hother fun reason h => nomatch h
  · exact hother fun reason h => nomatch h
  · rw [hs.exists_render_eq_error_iff]
    constructor
    · intro hshown
      rcases hshown with ⟨anchor, hanchor, p, hp, hpercent⟩
      rcases mem_anchors_iff.1 hanchor with ⟨group, hgroup, hhead⟩
      exact ⟨group, hgroup, anchor, hhead, p, hp, (isSome_percentFault?_iff p).1 hpercent⟩
    · intro hshown
      rcases hshown with ⟨group, hgroup, anchor, hhead, p, hp, hproduct⟩
      have hanchor : anchor ∈ s.anchors := mem_anchors_iff.2 ⟨group, hgroup, hhead⟩
      exact ⟨anchor, hanchor, p, hp, (isSome_percentFault?_iff p).2 hproduct⟩

/-- Of two groups without a percentage the one of the smaller identity is reported, although it was
collected last, and a bad total of a later snapshot is not. -/
theorem render_fails_by_percentage_small :
    let s := after smallCanvas {}
      [.collect (smallCycle [smallTracker 2 (0.0 / 0.0), smallTracker 1 (1.0 / 0.0)] none),
        .collect (smallCycle [smallTracker 1 (0.0 / 0.0)] none), .process]
    Reachable smallCanvas s ∧
      (s.step smallCanvas .render).reply = .error (.percentage .infinite) := by
  intro s
  have hs : Reachable smallCanvas s := reachable_after smallCanvas _
  refine ⟨hs, ((render_fails_by_percentage hs).2.2 _).2 ?_⟩
  refine ⟨s.anchors.head (by decide), List.head_mem _, .infinite, by decide, rfl, ?_⟩
  decide

end Session
end TrackOverlay
