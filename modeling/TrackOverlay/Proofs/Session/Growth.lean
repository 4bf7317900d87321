import TrackOverlay.Proofs.Growth
import TrackOverlay.Proofs.Session.Conservation
import TrackOverlay.Proofs.Session.RenderFaults

/-!
# Growth of sessions — what later scenes keep of earlier ones

Between two resets a session only adds snapshots at the end and brings its groups up to date, so its
groups show more and more of the snapshots (`Covers.step`, `Covers.after`).  Whatever was requested
between two drawings, refused collections included, the later scene therefore has all blocks of the
earlier one, in their order, and each of them only went on (`later_scene_continues`).
-/

namespace TrackOverlay
namespace Session

open Canvas

variable {c : Canvas} {s : Session} {request : Request} {shown : List Snapshot}

/-! ## Groups over requests -/

theorem process_groups (s : Session) :
    s.process.next.groups = s.groups ∨ s.process.next.groups = Snapshot.groups s.snapshots := by
  cases hstarted : s.started with
  | true => simp [process, hstarted]
  | false => simp [process, hstarted]

theorem render_groups (c : Canvas) (s : Session) : (s.render c).next.groups = s.groups := by
  rw [render_next]

theorem collect_groups (c : Canvas) (s : Session) (cycle : Cycle) :
    (s.collect c cycle).next.groups = s.groups := by
  rw [collect_next]

/-- Apart from a reset, a request leaves the groups alone or makes them anew from all snapshots. -/
theorem step_groups (c : Canvas) (s : Session) (hreset : request.isReset = false) :
    (s.step c request).next.groups = s.groups ∨
      (s.step c request).next.groups = Snapshot.groups s.snapshots := by
  cases request with
  | collect cycle => exact .inl (collect_groups c s cycle)
  | process => exact process_groups s
  | render => exact .inl (render_groups c s)
  | finalize =>
      have hrender := render_groups c s.process.next
      rcases process_groups s with hsame | hnew
      · exact .inl (hrender.trans hsame)
      · exact .inr (hrender.trans hnew)
  | reset => simp [Request.isReset] at hreset
  | _ => exact .inl rfl

/-- The groups show a beginning of the snapshots, and at least the given ones. -/
def Covers (shown : List Snapshot) (s : Session) : Prop :=
  ∃ more, shown <+: more ∧ more <+: s.snapshots ∧ s.groups = Snapshot.groups more

theorem Covers.step (h : Covers shown s) (hreset : request.isReset = false) :
    Covers shown (s.step c request).next := by
  rcases h with ⟨more, hshown, hmore, hgroups⟩
  have hsnapshots : (s.step c request).next.snapshots = s.snapshots ++ request.taken c := by
    rw [step_snapshots, hreset]
    rfl
  have hkept : s.snapshots <+: (s.step c request).next.snapshots := by
    rw [hsnapshots]
    exact List.prefix_append _ _
  rcases step_groups c s hreset with hsame | hnew
  · exact ⟨more, hshown, hmore.trans hkept, hsame.trans hgroups⟩
  · exact ⟨s.snapshots, hshown.trans hmore, hkept, hnew⟩

theorem Covers.after {requests : List Request} (h : Covers shown s)
    (hreset : ∀ request ∈ requests, request.isReset = false) :
    Covers shown (after c s requests) :=
  after_invariant h fun _ hcovers request hmem => hcovers.step (hreset request hmem)

theorem Reachable.exists_covers (hs : Reachable c s) :
    ∃ shown, s.groups = Snapshot.groups shown ∧ Covers shown s := by
  rcases hs.layers with ⟨drawn, grouped, h⟩
  exact ⟨_, h.groups_eq, _, List.prefix_rfl, List.take_prefix grouped s.snapshots, h.groups_eq⟩

/-! ## Drawing requests -/

/-- The requests that are answered with a scene. -/
def Request.draws : Request → Bool
  | .render => true
  | .finalize => true
  | _ => false

theorem Request.isReset_of_draws (h : request.draws = true) : request.isReset = false := by
  cases request with
  | render => rfl
  | finalize => rfl
  | _ => simp [Request.draws] at h

/-- A scene shows the groups as they are after the request. -/
theorem Reachable.draws_reply (hs : Reachable c s) (hdraws : request.draws = true) :
    (s.step c request).reply = (c.draw (s.step c request).next.groups).map Reply.scene := by
  have hrender : ∀ {s : Session}, Reachable c s →
      (s.render c).reply = (c.draw (s.render c).next.groups).map Reply.scene := by
    intro s hs
    rw [render_groups]
    exact hs.render_reply
  cases request with
  | render => exact hrender hs
  | finalize => exact hrender (hs.step .process)
  | _ => simp [Request.draws] at hdraws

/-- A scene cut into the blocks of the groups that a session has, in their order. -/
structure Partition (c : Canvas) (s : Session) (scene : Scene) (blocks : List (Identity × Scene)) :
    Prop where
  scene_eq : scene = blocks.flatMap Prod.snd
  objects_eq : blocks.map Prod.fst = s.anchors.map Snapshot.identity
  ascending : (blocks.map Prod.fst).Pairwise fun a b => a < b
  length_eq : ∀ block ∈ blocks, block.2.length = 2 * c.channelCount + 2
  id_eq : ∀ block ∈ blocks, ∀ m ∈ block.2, m.id = block.1.markerId

theorem exists_partition {scene : Scene} (hgroups : s.groups = Snapshot.groups shown)
    (hdraw : c.draw s.groups = .ok scene) :
    ∃ blocks, c.Blocks shown blocks ∧ Partition c s scene blocks := by
  rw [hgroups] at hdraw
  rcases exists_blocks hdraw with ⟨blocks, hblocks, hscene⟩
  have hobjects : blocks.map Prod.fst = s.anchors.map Snapshot.identity := by
    rw [map_fst_of_shows hblocks, ← Grouping.map_identity_heads, anchors, hgroups]
    rfl
  exact ⟨blocks, hblocks, hscene, hobjects, hblocks.ascending,
    fun block hblock => (hblocks.accounts block hblock).length_eq,
    fun block hblock => (hblocks.accounts block hblock).id_eq⟩

theorem Reachable.draw_of_reply {scene : Scene} (hs : Reachable c s) (hdraws : request.draws = true)
    (h : (s.step c request).reply = .ok (.scene scene)) :
    c.draw (s.step c request).next.groups = .ok scene := by
  have hreply := hs.draws_reply hdraws
  rcases Outcome.map_eq_ok_iff.1 (hreply.symm.trans h) with ⟨drawn, hdrawn, hscene⟩
  rw [hdrawn, Reply.scene.inj hscene]

/-- Two scenes of one run without a reset between them: the blocks of the earlier one are found
again, in their order, in the later one, and each of them only went on. -/
theorem later_scene_continues (c : Canvas) (before between : List Request) {first second : Request}
    {earlier later : Scene} (hfirst : first.draws = true) (hsecond : second.draws = true)
    (hbetween : ∀ request ∈ between, request.isReset = false)
    (hearlier : ((after c {} before).step c first).reply = .ok (.scene earlier))
    (hlater : ((after c {} (before ++ first :: between)).step c second).reply =
      .ok (.scene later)) :
    ∃ blocks laters, Partition c (after c {} (before ++ [first])) earlier blocks ∧
      Partition c (after c {} (before ++ first :: between ++ [second])) later laters ∧
      List.SublistForall₂ BlockContinues blocks laters := by
  have hstart := after_concat c {} before first
  have hfinish := after_concat c {} (before ++ first :: between) second
  have hmiddle : after c {} (before ++ first :: between) =
      after c (after c {} (before ++ [first])) between := by
    rw [after_append, after_cons, hstart]
  have hdrawn := (reachable_after c before).draw_of_reply hfirst hearlier
  have hredrawn := (reachable_after c (before ++ first :: between)).draw_of_reply hsecond hlater
  rw [← hstart] at hdrawn
  rw [← hfinish] at hredrawn
  -- the first scene shows the groups of some snapshots, and from there on the groups show no fewer
  rcases (reachable_after c (before ++ [first])).exists_covers with ⟨shown, hgroups, hcovers⟩
  have hcovers : Covers shown (after c {} (before ++ first :: between ++ [second])) := by
    rw [hfinish, hmiddle]
    exact (hcovers.after hbetween).step (Request.isReset_of_draws hsecond)
  rcases hcovers with ⟨more, hshown, -, hmore⟩
  rcases exists_partition hgroups hdrawn with ⟨blocks, hblocks, hpartition⟩
  rcases exists_partition hmore hredrawn with ⟨laters, hlaters, hrepartition⟩
  exact ⟨blocks, laters, hpartition, hrepartition, hblocks.continues hshown hlaters⟩

/-- An object is seen again after a refused collection, now associated, and beside a new object with
a smaller identity. -/
theorem later_scene_continues_small :
    let collect := fun numbers assigned =>
      Request.collect (smallCycle (numbers.map fun n => smallTracker n 0.5) assigned)
    let before := [collect [2] none]
    let between := [collect [2] (some 7), .process, collect [2, 1] (some 0)]
    ∃ earlier later,
      ((after smallCanvas {} before).step smallCanvas .finalize).reply = .ok (.scene earlier) ∧
      ((after smallCanvas {} (before ++ .finalize :: between)).step smallCanvas .finalize).reply =
        .ok (.scene later) ∧
      (earlier.length = 4 ∧ later.length = 8) ∧
      ∃ blocks laters, earlier = blocks.flatMap Prod.snd ∧ later = laters.flatMap Prod.snd ∧
        List.SublistForall₂ BlockContinues blocks laters := by
  intro collect before between
  have hearlier : ((after smallCanvas {} before).step smallCanvas .finalize).reply =
      .ok (.scene _) := rfl
  have hlater : ((after smallCanvas {} (before ++ .finalize :: between)).step smallCanvas
      .finalize).reply = .ok (.scene _) := rfl
  have hbetween : ∀ request ∈ between, request.isReset = false := by decide
  rcases later_scene_continues smallCanvas before between rfl rfl hbetween hearlier hlater with
    ⟨blocks, laters, hblocks, hlaters, hcontinues⟩
  exact ⟨_, _, hearlier, hlater, ⟨by decide, by decide⟩, blocks, laters, hblocks.scene_eq,
    hlaters.scene_eq, hcontinues⟩

end Session
end TrackOverlay
