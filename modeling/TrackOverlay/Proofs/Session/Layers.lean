import TrackOverlay.Proofs.Gathering
import TrackOverlay.Proofs.Session.Moves

/-!
# Layers — how snapshots, groups and scene of a session belong together

The three lists of a session are brought up to date by different requests, so the groups may lag
behind the snapshots and the scene behind the groups.  They never contradict each other, though:
each shows a beginning of the snapshots, and the scene no more of them than the groups
(`Layers`).  Every move preserves this, so every reachable session has it
(`Reachable.layers`).

It follows that a session without groups has no scene: a drawing request that finds no groups leaves
the scene alone, and still none is left over.
-/

namespace TrackOverlay
namespace Session

variable {c : Canvas} {s t : Session}

/-- The groups are those of the first `grouped` snapshots, and the scene, unless there is none, draws
the groups of the first `drawn`. -/
structure Layers (c : Canvas) (s : Session) (drawn grouped : Nat) : Prop where
  drawn_le : drawn ≤ grouped
  grouped_le : grouped ≤ s.snapshots.length
  groups_eq : s.groups = Snapshot.groups (s.snapshots.take grouped)
  scene_eq : s.scene = [] ∨ c.draw (Snapshot.groups (s.snapshots.take drawn)) = .ok s.scene
  scene_eq_nil : drawn = 0 → s.scene = []

theorem layers_new (c : Canvas) : Layers c {} 0 0 where
  drawn_le := Nat.le_refl 0
  grouped_le := Nat.le_refl 0
  groups_eq := rfl
  scene_eq := .inl rfl
  scene_eq_nil _ := rfl

theorem layers_of_move {drawn grouped : Nat} (h : Layers c s drawn grouped) (hmove : Move c s t) :
    ∃ drawn' grouped', Layers c t drawn' grouped' := by
  have hdrawn : drawn ≤ s.snapshots.length := Nat.le_trans h.drawn_le h.grouped_le
  cases hmove with
  | note time => exact ⟨drawn, grouped, h.1, h.2, h.3, h.4, h.5⟩
  | @take cycle taken hstarted htaken =>
      -- snapshots are added at the end, beyond what is grouped and drawn
      refine ⟨drawn, grouped, h.drawn_le, ?_, ?_, ?_, h.scene_eq_nil⟩
      · rw [List.length_append]
        exact Nat.le_add_right_of_le h.grouped_le
      · rw [List.take_append_of_le_length h.grouped_le]
        exact h.groups_eq
      · rw [List.take_append_of_le_length hdrawn]
        exact h.scene_eq
  | group hstarted =>
      refine ⟨drawn, s.snapshots.length, hdrawn, Nat.le_refl _, ?_, h.scene_eq, h.scene_eq_nil⟩
      rw [List.take_length]
  | @draw scene hstarted hdraw =>
      -- now the scene shows what is grouped
      have hgrouped : c.draw (Snapshot.groups (s.snapshots.take grouped)) = .ok scene := by
        rw [← h.groups_eq]
        exact hdraw
      refine ⟨grouped, grouped, Nat.le_refl _, h.grouped_le, h.groups_eq, .inr hgrouped, ?_⟩
      rintro rfl
      exact (Except.ok.inj hgrouped).symm
  | clear => exact ⟨0, 0, Nat.le_refl 0, Nat.zero_le _, rfl, .inl rfl, fun _ => rfl⟩

theorem Reachable.layers (hs : Reachable c s) : ∃ drawn grouped, Layers c s drawn grouped := by
  refine Reachable.invariant (P := fun s => ∃ drawn grouped, Layers c s drawn grouped)
    ⟨0, 0, layers_new c⟩ ?_ hs
  intro s t hlayers hmove
  rcases hlayers with ⟨drawn, grouped, h⟩
  exact layers_of_move h hmove

theorem Layers.groups_eq_nil_iff {drawn grouped : Nat} (h : Layers c s drawn grouped) :
    s.groups = [] ↔ s.snapshots.take grouped = [] := by
  rw [h.groups_eq]
  exact Grouping.groups_eq_nil_iff

theorem Layers.groups_eq_nil {drawn grouped : Nat} (h : Layers c s drawn grouped)
    (hsnapshots : s.snapshots = []) : s.groups = [] := by
  rw [h.groups_eq_nil_iff, hsnapshots, List.take_nil]

theorem Layers.scene_eq_nil_of_groups {drawn grouped : Nat} (h : Layers c s drawn grouped)
    (hgroups : s.groups = []) : s.scene = [] := by
  have hgrouped : s.snapshots.take grouped = [] := h.groups_eq_nil_iff.1 hgroups
  have hdrawn : s.snapshots.take drawn = [] := by
    rw [← Nat.min_eq_left h.drawn_le, ← List.take_take, hgrouped, List.take_nil]
  rcases h.scene_eq with hscene | hdraw
  · exact hscene
  · rw [hdrawn] at hdraw
    exact (Except.ok.inj hdraw).symm

/-- All that the lists of a reachable session show is a beginning of its snapshots. -/
theorem reachable_layered (hs : Reachable c s) :
    (∃ drawn grouped, drawn ≤ grouped ∧ grouped ≤ s.snapshots.length ∧
        s.groups = Snapshot.groups (s.snapshots.take grouped) ∧
        (s.scene = [] ∨ c.draw (Snapshot.groups (s.snapshots.take drawn)) = .ok s.scene) ∧
        (drawn = 0 → s.scene = [])) ∧
      (s.snapshots = [] → s.groups = []) ∧
      (s.groups = [] → s.scene = []) ∧
      (s.started = false →
        s.snapshots = [] ∧ s.groups = [] ∧ s.scene = [] ∧ s.time = 0.0) := by
  rcases hs.layers with ⟨drawn, grouped, h⟩
  refine ⟨?_, h.groups_eq_nil, h.scene_eq_nil_of_groups, ?_⟩
  · exact ⟨drawn, grouped, h.drawn_le, h.grouped_le, h.groups_eq, h.scene_eq, h.scene_eq_nil⟩
  · intro hstarted
    have hnew : s = {} := hs.eq_new hstarted
    subst hnew
    exact ⟨rfl, rfl, rfl, rfl⟩

/-- A run whose groups lag behind the snapshots, and its scene behind the groups. -/
theorem reachable_layered_lagging :
    let collect := fun number => Request.collect (smallCycle [smallTracker number 0.5] none)
    let s := after smallCanvas {} [collect 1, .finalize, collect 2, .process, collect 3]
    (s.snapshots.length = 3 ∧ s.groups.length = 2 ∧ s.scene.length = 4) ∧
      ∃ drawn grouped, drawn ≤ grouped ∧ grouped ≤ s.snapshots.length ∧
        s.groups = Snapshot.groups (s.snapshots.take grouped) ∧
        (s.scene = [] ∨
          smallCanvas.draw (Snapshot.groups (s.snapshots.take drawn)) = .ok s.scene) ∧
        (drawn = 0 → s.scene = []) := by
  intro collect s
  exact ⟨by decide, (reachable_layered (reachable_after smallCanvas _)).1⟩

end Session
end TrackOverlay
