import TrackOverlay.Proofs.Drawability
import TrackOverlay.Proofs.DrawingLoop
import TrackOverlay.Proofs.Influence

/-!
# Composition — scenes put together from scenes

Groups are drawn one after the other and nothing is carried from one to the next.  A scene of groups
and further groups is therefore the one scene followed by the other (`Canvas.draw_append`), the first
group that cannot be drawn ends the whole (`Canvas.draw_eq_error_iff`), and a scene falls into blocks of
one size, each the drawing of its own group alone (`Canvas.drawGroup_eq_blockAt`).

`Canvas.shownGroups` are the groups that leave a block; empty ones leave none.  A loop over the groups
that passes over empty ones draws the same scenes, with the same faults.
-/

namespace TrackOverlay
namespace Canvas

open Outcome

variable {c : Canvas} {groups : List (List Snapshot)} {scene : Scene}

/-! ## Groups that leave a block -/

/-- The groups that are drawn at all. -/
def shownGroups (groups : List (List Snapshot)) : List (List Snapshot) :=
  groups.filter fun group => !group.isEmpty

theorem draw_eq_of_shownGroups {other : List (List Snapshot)}
    (h : shownGroups other = shownGroups groups) : c.draw other = c.draw groups := by
  unfold shownGroups at h
  simp [draw, h]

theorem draw_append (c : Canvas) (groups later : List (List Snapshot)) :
    c.draw (groups ++ later) = (do
      let first ← c.draw groups
      let second ← c.draw later
      pure (first ++ second)) := by
  simp only [draw, List.filter_append, List.mapM_append, bind_assoc, pure_bind,
    List.flatten_append]

/-- A drawing is refused for its first group that cannot be drawn. -/
theorem draw_eq_error_iff {fault : Fault} :
    c.draw groups = .error fault ↔
      ∃ (k : Nat) (group : List Snapshot), (shownGroups groups)[k]? = some group ∧
        c.drawGroup group = .error fault ∧
        ∀ j < k, ∀ earlier, (shownGroups groups)[j]? = some earlier →
          ∃ block, c.drawGroup earlier = .ok block := by
  have hdraw : fault? (c.draw groups) = fault? ((shownGroups groups).mapM c.drawGroup) :=
    fault?_bind_pure _ _
  rw [← fault?_eq_some_iff, hdraw, fault?_eq_some_iff, mapM_eq_error_iff]

/-! ## Blocks of a scene -/

/-- The block at a position of a scene, counted in blocks. -/
def blockAt (c : Canvas) (scene : Scene) (k : Nat) : Scene :=
  (scene.drop (k * (2 * c.channelCount + 2))).take (2 * c.channelCount + 2)

theorem length_of_drawGroup {group : List Snapshot} (h : c.drawGroup group = .ok scene) :
    scene.length = 2 * c.channelCount + 2 := by
  rcases exists_anchor_of_drawGroup h with ⟨anchor, rest, rfl⟩
  rcases drawGroup_eq_ok_iff.1 h with ⟨place, text, sightings, -, -, -, rfl⟩
  exact block_length

/-- Blocks of one size follow each other without gaps. -/
theorem length_flatten_of_size {blocks : List Scene} {size : Nat}
    (h : ∀ block ∈ blocks, block.length = size) :
    blocks.flatten.length = size * blocks.length := by
  induction blocks with
  | nil => rfl
  | cons first rest ih =>
      have hrest := ih fun block hblock => h block (List.mem_cons_of_mem _ hblock)
      rw [List.flatten_cons, List.length_append, h first List.mem_cons_self, hrest,
        List.length_cons, Nat.mul_succ, Nat.add_comm]

theorem flatten_slice {blocks : List Scene} {size k : Nat} {block : Scene}
    (h : ∀ block ∈ blocks, block.length = size) (hblock : blocks[k]? = some block) :
    (blocks.flatten.drop (k * size)).take size = block := by
  induction blocks generalizing k with
  | nil => simp at hblock
  | cons first rest ih =>
      have hfirst : first.length = size := h first List.mem_cons_self
      cases k with
      | zero =>
          have heq : first = block := by simpa using hblock
          subst heq
          simp [← hfirst]
      | succ k =>
          have hrest := ih (fun b hb => h b (List.mem_cons_of_mem _ hb)) (by simpa using hblock)
          calc ((first :: rest).flatten.drop ((k + 1) * size)).take size
              = (rest.flatten.drop (k * size)).take size := by
                rw [List.flatten_cons, Nat.succ_mul, Nat.add_comm, ← List.drop_drop,
                  List.drop_left' hfirst]
            _ = block := hrest

theorem size_of_drawn {blocks : List Scene}
    (h : List.Forall₂ (fun group block => c.drawGroup group = .ok block) groups blocks) :
    ∀ block ∈ blocks, block.length = 2 * c.channelCount + 2 := by
  induction h with
  | nil => simp
  | cons hfirst _ ih => exact List.forall_mem_cons.2 ⟨length_of_drawGroup hfirst, ih⟩

theorem length_of_draw (h : c.draw groups = .ok scene) :
    scene.length = (2 * c.channelCount + 2) * (shownGroups groups).length := by
  rcases draw_eq_ok_iff.1 h with ⟨blocks, hblocks, rfl⟩
  have hlength : (shownGroups groups).length = blocks.length := hblocks.length_eq
  rw [hlength]
  exact length_flatten_of_size (size_of_drawn hblocks)

/-- The block of a group is what drawing this group alone gives. -/
theorem drawGroup_eq_blockAt {k : Nat} {group : List Snapshot} (h : c.draw groups = .ok scene)
    (hgroup : (shownGroups groups)[k]? = some group) :
    c.drawGroup group = .ok (c.blockAt scene k) := by
  rcases draw_eq_ok_iff.1 h with ⟨blocks, hblocks, rfl⟩
  rcases List.getElem?_eq_some_iff.1 hgroup with ⟨hk, rfl⟩
  have hk' : k < blocks.length := hblocks.length_eq ▸ hk
  have hslice := flatten_slice (size_of_drawn hblocks) (List.getElem?_eq_getElem hk')
  have hdrawn := hblocks.get hk hk'
  rw [blockAt, hslice]
  exact hdrawn

/-! ## Scenes of many groups -/

/-- Drawing composes: further groups are drawn behind the first ones unless one of the two drawings is
refused, the earlier fault being the one reported; empty groups leave no trace; and a scene is made of
equal blocks, one for each group that is not empty and the same as if it were drawn alone.  A loop that
draws one group after the other, and each group in one pass over its snapshots, comes to the same. -/
theorem draw_composes (c : Canvas) (groups later : List (List Snapshot)) :
    c.draw (groups ++ later) = (do
        let first ← c.draw groups
        let second ← c.draw later
        pure (first ++ second)) ∧
      (∀ other, shownGroups other = shownGroups groups → c.draw other = c.draw groups) ∧
      (∀ fault, c.draw groups = .error fault ↔
        ∃ (k : Nat) (group : List Snapshot), (shownGroups groups)[k]? = some group ∧
          c.drawGroup group = .error fault ∧
          ∀ j < k, ∀ earlier, (shownGroups groups)[j]? = some earlier →
            ∃ block, c.drawGroup earlier = .ok block) ∧
      (∀ scene, c.draw groups = .ok scene →
        scene.length = (2 * c.channelCount + 2) * (shownGroups groups).length ∧
          ∀ (k : Nat) (group : List Snapshot), (shownGroups groups)[k]? = some group →
            c.drawGroup group = .ok (c.blockAt scene k)) ∧
      c.drawByLoop groups = c.draw groups ∧
        ∀ group, c.drawGroupByLoop group = c.drawGroup group := by
  refine ⟨draw_append c groups later, ?_, ?_, ?_, drawByLoop_eq c groups, drawGroupByLoop_eq c⟩
  · intro other hother
    exact draw_eq_of_shownGroups hother
  · intro fault
    exact draw_eq_error_iff
  · intro scene hdraw
    refine ⟨length_of_draw hdraw, ?_⟩
    intro k group hgroup
    exact drawGroup_eq_blockAt hdraw hgroup

/-- Two objects with empty groups around them give two blocks of six markers.  Without probabilities
the second one ends the drawing. -/
theorem draw_composes_pair :
    let groups := [[], [pairSnapshot 1 true, pairSnapshot 1 false], [], [pairSnapshot 2 false]]
    let refused := [[pairSnapshot 1 true], [carelessSnapshot], []]
    (∃ scene, pairCanvas.draw groups = .ok scene ∧ scene.length = 12 ∧
        (shownGroups groups)[1]? = some [pairSnapshot 2 false] ∧
        pairCanvas.drawGroup [pairSnapshot 2 false] = .ok (pairCanvas.blockAt scene 1)) ∧
      (shownGroups groups.tail = shownGroups groups ∧
        pairCanvas.draw groups.tail = pairCanvas.draw groups) ∧
      (∃ block, pairCanvas.drawGroup [pairSnapshot 1 true] = .ok block) ∧
      pairCanvas.draw refused = .error (.violation (.vectorSize "2" 0 2)) := by
  intro groups refused
  have hdraw : pairCanvas.draw groups = .ok _ := rfl
  have hcomposes := draw_composes pairCanvas groups refused
  have hscene := hcomposes.2.2.2.1 _ hdraw
  have hfirst : ∃ block, pairCanvas.drawGroup [pairSnapshot 1 true] = .ok block := ⟨_, rfl⟩
  refine ⟨⟨_, hdraw, hscene.1, rfl, hscene.2 1 _ rfl⟩, ⟨rfl, hcomposes.2.1 _ rfl⟩, hfirst, ?_⟩
  refine ((draw_composes pairCanvas refused []).2.2.1 _).2 ⟨1, [carelessSnapshot], rfl, rfl, ?_⟩
  intro j hj earlier hearlier
  have hzero : j = 0 := Nat.lt_one_iff.1 hj
  subst hzero
  cases hearlier
  exact hfirst

end Canvas
end TrackOverlay
