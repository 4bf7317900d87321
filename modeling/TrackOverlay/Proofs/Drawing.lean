import TrackOverlay.Proofs.FirstFault
import TrackOverlay.Proofs.Gathering
import TrackOverlay.Scene.Rendering

/-!
# Drawing — what comes out of a drawing that succeeds

`Drawability` says when a drawing succeeds; this file says what its parts are then.

* `Canvas.sighting_eq_ok_iff`, `Canvas.drawGroup_eq_ok_iff`, `Canvas.draw_eq_ok_iff` — the results of
  the drawing operations, each in terms of the operations that it is composed of;
* `Canvas.mem_block_iff` and the positions of the markers within a block;
* `Canvas.exists_blocks` — gathered snapshots are drawn as one block for each identity.
-/

namespace TrackOverlay

open Outcome

/-- Whether something is associated through the channel at a position of the configuration. -/
def Snapshot.through (index : Nat) (s : Snapshot) : Bool :=
  s.associated && decide (s.channel = index)

namespace Canvas

variable {c : Canvas} {s anchor : Snapshot} {group : List Snapshot} {g : Sighting}
  {sightings : List Sighting} {place : Point} {text : String} {channel : Channel} {index : Nat}

/-! ## Sightings -/

theorem link_eq_ok_iff {link : Link} :
    c.link s = .ok link ↔
      (0 ≤ s.channel ∧ s.channel < c.channelCount) ∧ link.channel = s.channel.toNat ∧
        Point.ofVector c.detectionHeight s.detectionPoint = .ok link.detection := by
  by_cases hchannel : 0 ≤ s.channel ∧ s.channel < c.channelCount
  · rw [Canvas.link, if_pos hchannel, bind_eq_ok_iff]
    constructor
    · rintro ⟨detection, hdetection, hlink⟩
      cases hlink
      exact ⟨hchannel, rfl, hdetection⟩
    · rintro ⟨-, hindex, hdetection⟩
      refine ⟨link.detection, hdetection, ?_⟩
      rw [← hindex]
      rfl
  · simp [Canvas.link, hchannel]

theorem sighting_eq_ok_iff :
    c.sighting s = .ok g ↔
      Point.ofVector c.parameters.trackHeightOffset s.trackerPoint = .ok g.track ∧
        (s.associated = false → g.link = none) ∧
        (s.associated = true → ∃ link, c.link s = .ok link ∧ g.link = some link) := by
  rcases g with ⟨track, link?⟩
  cases hassociated : s.associated with
  | false =>
      simp only [sighting, hassociated, bind_eq_ok_iff]
      constructor
      · rintro ⟨p, hp, hsighting⟩
        cases hsighting
        exact ⟨hp, fun _ => rfl, by simp⟩
      · rintro ⟨hp, hnone, -⟩
        cases hnone trivial
        exact ⟨track, hp, rfl⟩
  | true =>
      simp only [sighting, hassociated, bind_eq_ok_iff, if_true]
      constructor
      · rintro ⟨p, hp, link, hlink, hsighting⟩
        cases hsighting
        exact ⟨hp, by simp, fun _ => ⟨link, hlink, rfl⟩⟩
      · rintro ⟨hp, -, hsome⟩
        rcases hsome trivial with ⟨link, hlink, heq⟩
        cases heq
        exact ⟨track, hp, link, hlink, rfl⟩

/-- Only configured channels are drawn. -/
theorem channel_mem_of_sighting (h : c.sighting s = .ok g) (hassociated : s.associated = true) :
    0 ≤ s.channel ∧ s.channel < c.channelCount := by
  rcases (sighting_eq_ok_iff.1 h).2.2 hassociated with ⟨link, hlink, -⟩
  exact (link_eq_ok_iff.1 hlink).1

/-- A sighting has a detection for exactly the channel that its snapshot is associated through. -/
theorem isSome_detectionOf? (h : c.sighting s = .ok g) (index : Nat) :
    (g.detectionOf? index).isSome = s.through index := by
  rcases sighting_eq_ok_iff.1 h with ⟨-, hnone, hsome⟩
  cases hassociated : s.associated with
  | false =>
      simp [Sighting.detectionOf?, Snapshot.through, hassociated, hnone hassociated]
  | true =>
      rcases hsome hassociated with ⟨link, hlink, hg⟩
      rcases link_eq_ok_iff.1 hlink with ⟨⟨hnonneg, -⟩, hindex, -⟩
      -- the link holds the channel as a natural number, and by its check nothing was cut off
      have hchannel : link.channel = index ↔ s.channel = index := by omega
      by_cases heq : s.channel = index
      · simp [Sighting.detectionOf?, Snapshot.through, hassociated, hg, hchannel, heq]
      · simp [Sighting.detectionOf?, Snapshot.through, hassociated, hg, hchannel, heq]

/-- The snapshots of a group and their sightings, one by one. -/
abbrev Sighted (c : Canvas) : List Snapshot → List Sighting → Prop :=
  List.Forall₂ fun s g => c.sighting s = .ok g

theorem Sighted.length_detections (h : c.Sighted group sightings) (index : Nat) :
    (sightings.filterMap (Sighting.detectionOf? index)).length =
      group.countP (Snapshot.through index) := by
  rw [List.length_filterMap_eq_countP]
  induction h with
  | nil => rfl
  | cons hs _ ih => rw [List.countP_cons, List.countP_cons, ih, isSome_detectionOf? hs]

theorem length_lineOf (index : Nat) (g : Sighting) :
    (g.lineOf index).length = if (g.detectionOf? index).isSome then 2 else 0 := by
  unfold Sighting.lineOf
  cases g.detectionOf? index with
  | none => rfl
  | some detection => rfl

theorem Sighted.length_lines (h : c.Sighted group sightings) (index : Nat) :
    (sightings.flatMap (Sighting.lineOf index)).length =
      2 * group.countP (Snapshot.through index) := by
  induction h with
  | nil => rfl
  | @cons s g _ _ hs _ ih =>
      rw [List.flatMap_cons, List.length_append, ih, length_lineOf, isSome_detectionOf? hs,
        List.countP_cons]
      cases s.through index with
      | false => simp
      | true => simp [Nat.mul_add, Nat.add_comm]

/-! ## Blocks -/

theorem block_length : (c.block anchor place text sightings).length = 2 * c.channelCount + 2 := by
  simp only [block, channelCount, List.length_append, List.length_mapIdx, List.length_cons,
    List.length_nil]
  omega

theorem getElem?_mapIdx_channels {f : Nat → Channel → Marker} (h : c.channels[index]? = some channel) :
    (c.channels.mapIdx f)[index]? = some (f index channel) := by
  rw [List.getElem?_mapIdx, h, Option.map_some]

theorem block_getElem?_boxes (h : c.channels[index]? = some channel) :
    (c.block anchor place text sightings)[index]? =
      some (c.detectionBoxes anchor sightings channel index) := by
  have hlt : index < c.channels.length := (List.getElem?_eq_some_iff.1 h).1
  rw [block, List.append_assoc, List.getElem?_append_left (by simpa using hlt),
    getElem?_mapIdx_channels h]

theorem block_getElem?_lines (h : c.channels[index]? = some channel) :
    (c.block anchor place text sightings)[c.channelCount + index]? =
      some (c.associationLines anchor sightings channel index) := by
  have hlt : index < c.channels.length := (List.getElem?_eq_some_iff.1 h).1
  -- all box markers stand before the line markers
  rw [block, List.append_assoc, List.getElem?_append_right (by simp [channelCount]),
    List.length_mapIdx, channelCount, Nat.add_sub_cancel_left,
    List.getElem?_append_left (by simpa using hlt), getElem?_mapIdx_channels h]

theorem block_getElem?_trackBoxes :
    (c.block anchor place text sightings)[2 * c.channelCount + 1]? =
      some (c.trackBoxes anchor sightings) := by
  rw [block, List.getElem?_append_right (by simp [channelCount]; omega)]
  have hplace : 2 * c.channelCount + 1 -
      (c.channels.mapIdx (fun index channel => c.detectionBoxes anchor sightings channel index) ++
        c.channels.mapIdx fun index channel =>
          c.associationLines anchor sightings channel index).length = 1 := by
    simp only [channelCount, List.length_append, List.length_mapIdx]
    omega
  rw [hplace]
  rfl

theorem mem_mapIdx_channels_iff {f : Nat → Channel → Marker} {m : Marker} :
    m ∈ c.channels.mapIdx f ↔
      ∃ index channel, c.channels[index]? = some channel ∧ m = f index channel := by
  rw [List.mem_iff_getElem?]
  simp only [List.getElem?_mapIdx, Option.map_eq_some_iff, eq_comm (a := m)]

/-- A block consists of a box marker and a line marker per channel, a label and track boxes. -/
theorem mem_block_iff {m : Marker} :
    m ∈ c.block anchor place text sightings ↔
      (∃ index channel, c.channels[index]? = some channel ∧
          m = c.detectionBoxes anchor sightings channel index) ∨
        (∃ index channel, c.channels[index]? = some channel ∧
          m = c.associationLines anchor sightings channel index) ∨
        m = c.labelMarker anchor place text sightings ∨ m = c.trackBoxes anchor sightings := by
  simp only [block, List.mem_append, mem_mapIdx_channels_iff, List.mem_cons, List.not_mem_nil,
    or_false, or_assoc]

/-- All markers of a block carry the frame, the time of the anchor and its number. -/
theorem anchor_of_mem_block {m : Marker} (h : m ∈ c.block anchor place text sightings) :
    m.header = ⟨c.frame, anchor.time⟩ ∧ m.id = anchor.identity.markerId := by
  rcases mem_block_iff.1 h with hboxes | hlines | rfl | rfl
  · rcases hboxes with ⟨index, channel, -, rfl⟩
    exact ⟨rfl, rfl⟩
  · rcases hlines with ⟨index, channel, -, rfl⟩
    exact ⟨rfl, rfl⟩
  · exact ⟨rfl, rfl⟩
  · exact ⟨rfl, rfl⟩

/-! ## Groups -/

theorem drawGroup_eq_ok_iff {rest : List Snapshot} {scene : Scene} :
    c.drawGroup (anchor :: rest) = .ok scene ↔
      ∃ place text sightings,
        Point.ofVector c.parameters.textHeightOffset anchor.trackerPoint = .ok place ∧
          c.label anchor = .ok text ∧ c.Sighted (anchor :: rest) sightings ∧
          scene = c.block anchor place text sightings := by
  simp only [drawGroup, bind_eq_ok_iff, mapM_eq_ok_iff]
  constructor
  · rintro ⟨place, hplace, text, htext, sightings, hsightings, hscene⟩
    exact ⟨place, text, sightings, hplace, htext, hsightings, (Except.ok.inj hscene).symm⟩
  · rintro ⟨place, text, sightings, hplace, htext, hsightings, rfl⟩
    exact ⟨place, hplace, text, htext, sightings, hsightings, rfl⟩

/-- Nothing is drawn of an empty group. -/
theorem exists_anchor_of_drawGroup {scene : Scene} (h : c.drawGroup group = .ok scene) :
    ∃ anchor rest, group = anchor :: rest := by
  cases group with
  | nil => simp [drawGroup] at h
  | cons anchor rest => exact ⟨anchor, rest, rfl⟩

theorem draw_eq_ok_iff {groups : List (List Snapshot)} {scene : Scene} :
    c.draw groups = .ok scene ↔
      ∃ blocks, List.Forall₂ (fun group block => c.drawGroup group = .ok block)
          (groups.filter fun group => !group.isEmpty) blocks ∧
        scene = blocks.flatten := by
  simp only [draw, bind_eq_ok_iff, mapM_eq_ok_iff]
  constructor
  · rintro ⟨blocks, hblocks, hscene⟩
    exact ⟨blocks, hblocks, (Except.ok.inj hscene).symm⟩
  · rintro ⟨blocks, hblocks, rfl⟩
    exact ⟨blocks, hblocks, rfl⟩

/-! ## Gathered snapshots -/

/-- A block that shows a group, both with the identity of the group. -/
def Shows (c : Canvas) (group : Identity × List Snapshot) (block : Identity × Scene) : Prop :=
  block.1 = group.1 ∧ c.drawGroup group.2 = .ok block.2

/-- Blocks are kept with the identities of their groups. -/
theorem exists_identified {groups : List (Identity × List Snapshot)} {blocks : List Scene}
    (h : List.Forall₂ (fun group block => c.drawGroup group = .ok block) (groups.map Prod.snd)
      blocks) :
    ∃ identified, List.Forall₂ c.Shows groups identified ∧ blocks = identified.map Prod.snd := by
  rw [List.forall₂_map_left_iff] at h
  induction h with
  | nil => exact ⟨[], .nil, rfl⟩
  | @cons group block _ _ hblock _ ih =>
      rcases ih with ⟨identified, hshows, rfl⟩
      exact ⟨(group.1, block) :: identified, .cons ⟨rfl, hblock⟩ hshows, rfl⟩

theorem map_fst_of_shows {groups : List (Identity × List Snapshot)}
    {blocks : List (Identity × Scene)} (h : List.Forall₂ c.Shows groups blocks) :
    blocks.map Prod.fst = groups.map Prod.fst := by
  induction h with
  | nil => rfl
  | cons hshows _ ih => rw [List.map_cons, List.map_cons, hshows.1, ih]

/-- The blocks of gathered snapshots, each with the identity that it shows. -/
abbrev Blocks (c : Canvas) (snapshots : List Snapshot) : List (Identity × Scene) → Prop :=
  List.Forall₂ c.Shows (Grouping.keyed Snapshot.identity snapshots)

theorem Blocks.ascending {snapshots : List Snapshot} {blocks : List (Identity × Scene)}
    (h : c.Blocks snapshots blocks) : (blocks.map Prod.fst).Pairwise fun a b => a < b := by
  rw [map_fst_of_shows h]
  exact List.pairwise_map.2 (Grouping.ascending_keyed Snapshot.identity snapshots)

/-- The scene of gathered snapshots has one block for each identity. -/
theorem exists_blocks {snapshots : List Snapshot} {scene : Scene}
    (h : c.draw (Snapshot.groups snapshots) = .ok scene) :
    ∃ blocks, c.Blocks snapshots blocks ∧ scene = blocks.flatMap Prod.snd := by
  rcases draw_eq_ok_iff.1 h with ⟨blocks, hblocks, rfl⟩
  -- groups of gathered snapshots are never empty, so all of them are drawn
  have hfilter : (Snapshot.groups snapshots).filter (fun group => !group.isEmpty) =
      Snapshot.groups snapshots := by
    refine List.filter_eq_self.2 fun group hgroup => ?_
    simpa using (Grouping.mem_groups_iff.1 hgroup).1
  rw [hfilter] at hblocks
  rcases exists_identified hblocks with ⟨identified, hshows, rfl⟩
  exact ⟨identified, hshows, List.flatMap_def.symm⟩

end Canvas
end TrackOverlay
