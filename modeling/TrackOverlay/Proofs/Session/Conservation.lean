import Mathlib.Algebra.BigOperators.Group.Finset.Piecewise
import TrackOverlay.Proofs.MarkerKeys
import TrackOverlay.Proofs.Session.Record

/-!
# Conservation — every snapshot is drawn once

Between a collection and a scene a snapshot is kept, gathered and drawn, and at none of these stages
is it lost, doubled or given to another object or channel.  The blocks of a scene are those of the
objects of the session, in ascending order, and `Accounts` says what a block shows: a point for each
snapshot of the object, and points for the associated ones under the channel that they came through.

`finalize_conserves` states this for the scene at the end of a run; counted over the whole scene, the
track boxes have a point for each snapshot and the detection boxes one for each associated snapshot.
-/

namespace TrackOverlay

/-! ## Points of a scene -/

/-- How many points the markers of some name spaces have together. -/
def Scene.pointCount (spaces : List String) (scene : Scene) : Nat :=
  ((scene.filter fun m => m.space ∈ spaces).map fun m => m.points.length).sum

namespace Scene

variable {spaces : List String} {scene : Scene}

theorem pointCount_append (spaces : List String) (first second : Scene) :
    pointCount spaces (first ++ second) = pointCount spaces first + pointCount spaces second := by
  simp [pointCount]

theorem pointCount_flatMap {α : Type} (spaces : List String) (f : α → Scene) (items : List α) :
    pointCount spaces (items.flatMap f) = (items.map fun a => pointCount spaces (f a)).sum := by
  induction items with
  | nil => rfl
  | cons a items ih => rw [List.flatMap_cons, pointCount_append, ih, List.map_cons, List.sum_cons]

theorem pointCount_of_forall_notMem (h : ∀ m ∈ scene, m.space ∉ spaces) :
    pointCount spaces scene = 0 := by
  have hfilter : scene.filter (fun m => m.space ∈ spaces) = [] :=
    List.filter_eq_nil_iff.2 fun m hm => by simpa using h m hm
  rw [pointCount, hfilter]
  rfl

theorem pointCount_of_forall_mem (h : ∀ m ∈ scene, m.space ∈ spaces) :
    pointCount spaces scene = (scene.map fun m => m.points.length).sum := by
  have hfilter : scene.filter (fun m => m.space ∈ spaces) = scene :=
    List.filter_eq_self.2 fun m hm => by simpa using h m hm
  rw [pointCount, hfilter]

end Scene

/-! ## Snapshots channel by channel -/

/-- With its channel in range a snapshot is associated through exactly one channel, or through none. -/
theorem Snapshot.sum_through {count : Nat} {s : Snapshot}
    (h : s.associated = true → 0 ≤ s.channel ∧ s.channel < count) :
    (∑ index ∈ Finset.range count, if s.through index then 1 else 0) =
      if s.associated then 1 else 0 := by
  cases hassociated : s.associated with
  | false => simp [Snapshot.through, hassociated]
  | true =>
      rcases h hassociated with ⟨hnonneg, hlt⟩
      have hmem : s.channel.toNat ∈ Finset.range count := by
        rw [Finset.mem_range]
        omega
      have hthrough : ∀ index : Nat, s.through index = true ↔ s.channel.toNat = index := by
        intro index
        have hindex : s.channel = index ↔ s.channel.toNat = index := by omega
        simp [Snapshot.through, hassociated, hindex]
      simp only [hthrough, Finset.sum_ite_eq, if_pos hmem, if_true]

theorem Snapshot.sum_countP_through {count : Nat} {group : List Snapshot}
    (h : ∀ s ∈ group, s.associated = true → 0 ≤ s.channel ∧ s.channel < count) :
    (∑ index ∈ Finset.range count, group.countP (Snapshot.through index)) =
      group.countP Snapshot.associated := by
  induction group with
  | nil => simp
  | cons s group ih =>
      have hgroup := ih fun other hother => h other (List.mem_cons_of_mem s hother)
      have hs := Snapshot.sum_through (h s List.mem_cons_self)
      simp only [List.countP_cons, Finset.sum_add_distrib, hgroup, hs]

theorem sum_map_mapIdx {α β : Type} {f : Nat → α → β} {g : β → Nat} {count : Nat → Nat}
    (h : ∀ index a, g (f index a) = count index) (items : List α) :
    ((items.mapIdx f).map g).sum = ∑ index ∈ Finset.range items.length, count index := by
  induction items using List.reverseRecOn with
  | nil => rfl
  | append_singleton items a ih => simp [List.mapIdx_append, ih, h, Finset.sum_range_succ]

namespace Canvas

variable {c : Canvas} {anchor : Snapshot} {group : List Snapshot} {sightings : List Sighting}
  {place : Point} {text : String} {block : Scene}

/-! ## Points of a block -/

theorem Sighted.channel_mem (h : c.Sighted group sightings) :
    ∀ s ∈ group, s.associated = true → 0 ≤ s.channel ∧ s.channel < c.channelCount := by
  induction h with
  | nil => simp
  | cons hs _ ih =>
      intro s hmem
      rcases List.mem_cons.1 hmem with rfl | hmem
      · exact channel_mem_of_sighting hs
      · exact ih s hmem

theorem initial_of_mem_boxes {m : Marker} (hm : m ∈ c.channels.mapIdx fun index channel =>
    c.detectionBoxes anchor sightings channel index) : initial m.space = some 'd' := by
  rcases mem_mapIdx_channels_iff.1 hm with ⟨index, channel, -, rfl⟩
  exact initial_detectionBoxSpace channel

theorem initial_of_mem_lines {m : Marker} (hm : m ∈ c.channels.mapIdx fun index channel =>
    c.associationLines anchor sightings channel index) : initial m.space = some 'a' := by
  rcases mem_mapIdx_channels_iff.1 hm with ⟨index, channel, -, rfl⟩
  exact initial_lineSpace channel

theorem notMem_boxSpaces {space : String} (h : initial space ≠ some 'd') :
    space ∉ c.channels.map detectionBoxSpace := by
  intro hmem
  rcases List.mem_map.1 hmem with ⟨channel, -, rfl⟩
  exact h (initial_detectionBoxSpace channel)

theorem pointCount_trackBoxes_block :
    Scene.pointCount [trackBoxSpace] (c.block anchor place text sightings) = sightings.length := by
  have hspace : ∀ {space : String}, initial space ≠ some 't' → space ∉ [trackBoxSpace] := by
    intro space hinitial hmem
    rw [List.mem_singleton.1 hmem] at hinitial
    exact hinitial initial_trackBoxSpace
  have hboxes : ∀ m ∈ c.channels.mapIdx (fun index channel =>
      c.detectionBoxes anchor sightings channel index), m.space ∉ [trackBoxSpace] :=
    fun m hm => hspace (by simp [initial_of_mem_boxes hm])
  have hlines : ∀ m ∈ c.channels.mapIdx (fun index channel =>
      c.associationLines anchor sightings channel index), m.space ∉ [trackBoxSpace] :=
    fun m hm => hspace (by simp [initial_of_mem_lines hm])
  have hlast : Scene.pointCount [trackBoxSpace] [c.labelMarker anchor place text sightings,
      c.trackBoxes anchor sightings] = sightings.length := by
    have hlabel : labelSpace ≠ trackBoxSpace := by decide
    simp [Scene.pointCount, labelMarker, trackBoxes, anchored, hlabel]
  calc Scene.pointCount [trackBoxSpace] (c.block anchor place text sightings)
      = 0 + 0 + sightings.length := by
        rw [block, Scene.pointCount_append, Scene.pointCount_append,
          Scene.pointCount_of_forall_notMem hboxes, Scene.pointCount_of_forall_notMem hlines, hlast]
    _ = sightings.length := Nat.zero_add _

theorem pointCount_detectionBoxes_block (h : c.Sighted group sightings) :
    Scene.pointCount (c.channels.map detectionBoxSpace) (c.block anchor place text sightings) =
      group.countP Snapshot.associated := by
  have hboxes : ∀ m ∈ c.channels.mapIdx (fun index channel =>
      c.detectionBoxes anchor sightings channel index), m.space ∈ c.channels.map detectionBoxSpace := by
    intro m hm
    rcases mem_mapIdx_channels_iff.1 hm with ⟨index, channel, hchannel, rfl⟩
    exact List.mem_map_of_mem (List.mem_of_getElem? hchannel)
  have hlines : ∀ m ∈ c.channels.mapIdx (fun index channel =>
      c.associationLines anchor sightings channel index),
      m.space ∉ c.channels.map detectionBoxSpace :=
    fun m hm => notMem_boxSpaces (by simp [initial_of_mem_lines hm])
  have hlast : ∀ m ∈ [c.labelMarker anchor place text sightings, c.trackBoxes anchor sightings],
      m.space ∉ c.channels.map detectionBoxSpace := by
    intro m hm
    have hm : m = c.labelMarker anchor place text sightings ∨
      m = c.trackBoxes anchor sightings := by simpa using hm
    rcases hm with rfl | rfl
    · exact notMem_boxSpaces (by simp [labelMarker, anchored])
    · exact notMem_boxSpaces (by simp [trackBoxes, anchored])
  have hcount : ∀ index channel, (c.detectionBoxes anchor sightings channel index).points.length =
      group.countP (Snapshot.through index) := fun index _ => h.length_detections index
  -- the box markers alone count, each with the snapshots that came through its channel
  calc Scene.pointCount (c.channels.map detectionBoxSpace) (c.block anchor place text sightings)
      = ((c.channels.mapIdx fun index channel =>
          c.detectionBoxes anchor sightings channel index).map fun m => m.points.length).sum := by
        rw [block, Scene.pointCount_append, Scene.pointCount_append,
          Scene.pointCount_of_forall_mem hboxes, Scene.pointCount_of_forall_notMem hlines,
          Scene.pointCount_of_forall_notMem hlast, Nat.add_zero]
    _ = ∑ index ∈ Finset.range c.channelCount, group.countP (Snapshot.through index) :=
        sum_map_mapIdx (g := fun m : Marker => m.points.length) hcount c.channels
    _ = group.countP Snapshot.associated := Snapshot.sum_countP_through h.channel_mem

/-! ## What a block shows -/

/-- A block that accounts for the snapshots of one object: its markers carry the number of the
object, the frame and the time of the first snapshot, and the points are those of the snapshots. -/
structure Accounts (c : Canvas) (tracked : Identity) (own : List Snapshot) (block : Scene) :
    Prop where
  length_eq : block.length = 2 * c.channelCount + 2
  id_eq : ∀ m ∈ block, m.id = tracked.markerId
  header_eq : ∀ m ∈ block, own.head?.map (fun first => ⟨c.frame, first.time⟩) = some m.header
  tracks : ∃ boxes, block[2 * c.channelCount + 1]? = some boxes ∧ boxes.space = trackBoxSpace ∧
    boxes.points.length = own.length
  detections : ∀ index channel, c.channels[index]? = some channel →
    ∃ boxes, block[index]? = some boxes ∧ boxes.space = detectionBoxSpace channel ∧
      boxes.points.length = own.countP (Snapshot.through index)
  lines : ∀ index channel, c.channels[index]? = some channel →
    ∃ lines, block[c.channelCount + index]? = some lines ∧ lines.space = lineSpace channel ∧
      lines.points.length = 2 * own.countP (Snapshot.through index)

theorem accounts_of_drawGroup {rest : List Snapshot}
    (h : c.drawGroup (anchor :: rest) = .ok block) :
    Accounts c anchor.identity (anchor :: rest) block := by
  rcases drawGroup_eq_ok_iff.1 h with ⟨place, text, sightings, -, -, hsighted, rfl⟩
  refine ⟨block_length, fun m hm => (anchor_of_mem_block hm).2, ?_, ?_, ?_, ?_⟩
  · intro m hm
    exact congrArg some (anchor_of_mem_block hm).1.symm
  · refine ⟨_, block_getElem?_trackBoxes, rfl, ?_⟩
    have hlength : (sightings.map Sighting.track).length = sightings.length := List.length_map _
    exact hlength.trans hsighted.length_eq.symm
  · intro index channel hchannel
    exact ⟨_, block_getElem?_boxes hchannel, rfl, hsighted.length_detections index⟩
  · intro index channel hchannel
    exact ⟨_, block_getElem?_lines hchannel, rfl, hsighted.length_lines index⟩

theorem pointCount_of_drawGroup (h : c.drawGroup group = .ok block) :
    Scene.pointCount [trackBoxSpace] block = group.length ∧
      Scene.pointCount (c.channels.map detectionBoxSpace) block =
        group.countP Snapshot.associated := by
  rcases exists_anchor_of_drawGroup h with ⟨anchor, rest, rfl⟩
  rcases drawGroup_eq_ok_iff.1 h with ⟨place, text, sightings, -, -, hsighted, rfl⟩
  exact ⟨pointCount_trackBoxes_block.trans hsighted.length_eq.symm,
    pointCount_detectionBoxes_block hsighted⟩

/-! ## Gathered snapshots -/

variable {snapshots : List Snapshot} {groups : List (Identity × List Snapshot)}
  {blocks : List (Identity × Scene)}

/-- What every block counts of its group, all blocks together count of all groups. -/
theorem pointCount_of_shows (h : List.Forall₂ c.Shows groups blocks) {spaces : List String}
    {p : Snapshot → Bool}
    (hblock : ∀ {group : List Snapshot} {block : Scene}, c.drawGroup group = .ok block →
      Scene.pointCount spaces block = group.countP p) :
    Scene.pointCount spaces (blocks.flatMap Prod.snd) =
      (groups.map fun group => group.2.countP p).sum := by
  rw [Scene.pointCount_flatMap]
  induction h with
  | nil => rfl
  | cons hshows _ ih =>
      rw [List.map_cons, List.map_cons, List.sum_cons, List.sum_cons, hblock hshows.2, ih]

/-- There is a block for each identity that occurs, and for no other. -/
theorem Blocks.mem_map_fst_iff (h : c.Blocks snapshots blocks) {tracked : Identity} :
    tracked ∈ blocks.map Prod.fst ↔ ∃ s ∈ snapshots, s.identity = tracked := by
  rw [map_fst_of_shows h]
  constructor
  · intro hmem
    rcases List.mem_map.1 hmem with ⟨⟨id, group⟩, hgroup, rfl⟩
    rcases Grouping.mem_keyed_iff.1 hgroup with ⟨hne, hfilter⟩
    rcases List.exists_mem_of_ne_nil group hne with ⟨s, hs⟩
    rw [hfilter] at hs
    exact ⟨s, (List.mem_filter.1 hs).1, Grouping.identity_eq_of_mem_filter hs⟩
  · rintro ⟨s, hs, rfl⟩
    have hne : (snapshots.filter fun other => other.identity = s.identity) ≠ [] :=
      List.ne_nil_of_mem (List.mem_filter.2 ⟨hs, by simp⟩)
    exact List.mem_map.2 ⟨_, Grouping.mem_keyed_iff.2 ⟨hne, rfl⟩, rfl⟩

theorem accounts_of_shows {group : Identity × List Snapshot} {block : Identity × Scene}
    (hgroup : group ∈ Grouping.keyed Snapshot.identity snapshots) (h : c.Shows group block) :
    Accounts c block.1 (snapshots.filter fun s => s.identity = block.1) block.2 := by
  rcases group with ⟨id, group⟩
  rcases block with ⟨tracked, block⟩
  rcases h with ⟨rfl, hblock⟩
  rcases exists_anchor_of_drawGroup hblock with ⟨anchor, rest, rfl⟩
  have hanchor : anchor.identity = tracked :=
    Grouping.identity_eq_of_mem_keyed hgroup List.mem_cons_self
  have hfilter := (Grouping.mem_keyed_iff.1 hgroup).2
  have haccounts := accounts_of_drawGroup hblock
  rwa [hanchor, hfilter] at haccounts

theorem Blocks.accounts (h : c.Blocks snapshots blocks) :
    ∀ block ∈ blocks, Accounts c block.1
      (snapshots.filter fun s => s.identity = block.1) block.2 := by
  intro block hblock
  rcases List.mem_iff_getElem.1 hblock with ⟨i, hi, rfl⟩
  have hlength : i < (Grouping.keyed Snapshot.identity snapshots).length := by
    rw [h.length_eq]
    exact hi
  exact accounts_of_shows (List.getElem_mem hlength) (h.get hlength hi)

theorem Blocks.pointCount (h : c.Blocks snapshots blocks) :
    Scene.pointCount [trackBoxSpace] (blocks.flatMap Prod.snd) = snapshots.length ∧
      Scene.pointCount (c.channels.map detectionBoxSpace) (blocks.flatMap Prod.snd) =
        snapshots.countP Snapshot.associated := by
  have htracks : Scene.pointCount [trackBoxSpace] (blocks.flatMap Prod.snd) =
      snapshots.countP fun _ => true := by
    rw [← Grouping.sum_countP_keyed Snapshot.identity]
    exact pointCount_of_shows h fun hblock => by simpa using (pointCount_of_drawGroup hblock).1
  have hdetections : Scene.pointCount (c.channels.map detectionBoxSpace)
      (blocks.flatMap Prod.snd) = snapshots.countP Snapshot.associated := by
    rw [← Grouping.sum_countP_keyed Snapshot.identity]
    exact pointCount_of_shows h fun hblock => (pointCount_of_drawGroup hblock).2
  exact ⟨by simpa using htracks, hdetections⟩

end Canvas

namespace Session

open Canvas

/-- The scene at the end of a run consists of one block for each object of the session, in ascending
order, and shows every snapshot exactly once, under its own object and its own channel. -/
theorem finalize_conserves (c : Canvas) (requests : List Request) {scene : Scene}
    (h : ((after c {} requests).step c .finalize).reply = .ok (.scene scene)) :
    let snapshots := (after c {} (requests ++ [.finalize])).snapshots
    (∃ blocks : List (Identity × Scene),
        scene = blocks.flatMap Prod.snd ∧
          (blocks.map Prod.fst).Pairwise (fun a b => a < b) ∧
          (∀ tracked, tracked ∈ blocks.map Prod.fst ↔ ∃ s ∈ snapshots, s.identity = tracked) ∧
          ∀ block ∈ blocks, Accounts c block.1
            (snapshots.filter fun s => s.identity = block.1) block.2) ∧
      Scene.pointCount [trackBoxSpace] scene = snapshots.length ∧
      Scene.pointCount (c.channels.map detectionBoxSpace) scene =
        snapshots.countP Snapshot.associated := by
  intro snapshots
  -- the last request groups and draws, and takes nothing
  have hsnapshots : snapshots = (after c {} requests).snapshots := by
    have hstep := step_snapshots c (after c {} requests) .finalize
    simpa [snapshots, after_concat, Request.isReset, Request.taken] using hstep
  have hdraw : c.draw (Snapshot.groups snapshots) = .ok scene := by
    have hreply := (reachable_after c requests).finalize_reply
    rcases Outcome.map_eq_ok_iff.1 (hreply.symm.trans h) with ⟨drawn, hdrawn, hscene⟩
    rw [hsnapshots, hdrawn, Reply.scene.inj hscene]
  rcases exists_blocks hdraw with ⟨blocks, hblocks, rfl⟩
  exact ⟨⟨blocks, rfl, hblocks.ascending, fun _ => hblocks.mem_map_fst_iff, hblocks.accounts⟩,
    hblocks.pointCount⟩

/-- Two cycles with three snapshots of two objects, one of them associated. -/
theorem finalize_conserves_small :
    let requests : List Request :=
      [.collect (smallCycle [smallTracker 2 0.5, smallTracker 1 0.5] (some 0)), .process,
        .collect (smallCycle [smallTracker 1 0.5] none)]
    ∃ scene, ((after smallCanvas {} requests).step smallCanvas .finalize).reply =
        .ok (.scene scene) ∧
      Scene.pointCount [trackBoxSpace] scene = 3 ∧
      Scene.pointCount (smallCanvas.channels.map detectionBoxSpace) scene = 1 := by
  intro requests
  have hreply : ((after smallCanvas {} requests).step smallCanvas .finalize).reply =
      .ok (.scene _) := rfl
  rcases finalize_conserves smallCanvas requests hreply with ⟨-, htracks, hdetections⟩
  refine ⟨_, hreply, htracks.trans ?_, hdetections.trans ?_⟩
  · decide
  · decide

end Session
end TrackOverlay
