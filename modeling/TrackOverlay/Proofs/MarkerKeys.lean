import Mathlib.Data.List.Nodup
import TrackOverlay.Proofs.Configuration
import TrackOverlay.Proofs.Drawing

/-!
# MarkerKeys — when markers of a scene are confused

A renderer knows a marker by its key, the name space and the number: a later marker of the same key
replaces or deletes it.  The four families of name spaces never meet, whatever the channels are
called, so the keys of a scene are distinct exactly if the short names of the channels and the
numbers of the objects are (`Canvas.keys_nodup_iff`).

Nothing in a channel configuration keeps two channels from having one short name.  An empty marker
then deletes what was drawn for the other channel; `Canvas.delete_meets_add_iff` says when.
-/

namespace TrackOverlay
namespace Canvas

variable {c : Canvas} {anchor : Snapshot} {group : List Snapshot} {sightings : List Sighting}
  {place : Point} {text : String} {scene : Scene}

/-! ## Name spaces -/

/-- The first letter of a name space, which is different in each of the four families. -/
def initial (space : String) : Option Char := space.toList.head?

theorem initial_append {s : String} (hs : s ≠ "") (t : String) : initial (s ++ t) = initial s := by
  have hne : s.toList ≠ [] := by simpa using hs
  rw [initial, String.toList_append, List.head?_append_of_ne_nil _ hne, initial]

@[simp] theorem initial_detectionBoxSpace (channel : Channel) :
    initial (detectionBoxSpace channel) = some 'd' :=
  initial_append (by decide) channel.shortName

@[simp] theorem initial_lineSpace (channel : Channel) :
    initial (lineSpace channel) = some 'a' :=
  initial_append (by decide) channel.shortName

@[simp] theorem initial_labelSpace : initial labelSpace = some 'e' := by
  simp [initial, labelSpace]

@[simp] theorem initial_trackBoxSpace : initial trackBoxSpace = some 't' := by
  simp [initial, trackBoxSpace]

theorem ne_of_initial_ne {space other : String} (h : initial space ≠ initial other) :
    space ≠ other := fun heq => h (congrArg initial heq)

theorem detectionBoxSpace_inj {a b : Channel} :
    detectionBoxSpace a = detectionBoxSpace b ↔ a.shortName = b.shortName :=
  String.append_right_inj _

theorem lineSpace_inj {a b : Channel} : lineSpace a = lineSpace b ↔ a.shortName = b.shortName :=
  String.append_right_inj _

/-- The name spaces of a block, in the order of its markers. -/
def blockSpaces (c : Canvas) : List String :=
  c.channels.map detectionBoxSpace ++ c.channels.map lineSpace ++ [labelSpace, trackBoxSpace]

theorem nodup_map_iff_shortName {space : Channel → String}
    (hspace : ∀ {a b : Channel}, space a = space b ↔ a.shortName = b.shortName)
    (channels : List Channel) :
    (channels.map space).Nodup ↔ (channels.map Channel.shortName).Nodup := by
  simp only [List.Nodup, List.pairwise_map, ne_eq, hspace]

/-- The name spaces of a block differ if the short names of the channels do. -/
theorem nodup_blockSpaces_iff (c : Canvas) :
    c.blockSpaces.Nodup ↔ (c.channels.map Channel.shortName).Nodup := by
  have hboxes := nodup_map_iff_shortName detectionBoxSpace_inj c.channels
  have hlines := nodup_map_iff_shortName lineSpace_inj c.channels
  constructor
  · intro hspaces
    exact hboxes.1 (List.nodup_append'.1 (List.nodup_append'.1 hspaces).1).1
  · intro hnames
    have hmiddle : List.Disjoint (c.channels.map detectionBoxSpace) (c.channels.map lineSpace) := by
      intro space hbox hline
      rcases List.mem_map.1 hbox with ⟨a, -, rfl⟩
      rcases List.mem_map.1 hline with ⟨b, -, heq⟩
      exact ne_of_initial_ne (by simp) heq
    have hlast : List.Disjoint (c.channels.map detectionBoxSpace ++ c.channels.map lineSpace)
        [labelSpace, trackBoxSpace] := by
      intro space hchannel hfixed
      -- a channel's name space begins with one of two letters, and the fixed ones with neither
      have hinitial : initial space = some 'd' ∨ initial space = some 'a' := by
        rcases List.mem_append.1 hchannel with hbox | hline
        · rcases List.mem_map.1 hbox with ⟨a, -, rfl⟩
          exact .inl (initial_detectionBoxSpace a)
        · rcases List.mem_map.1 hline with ⟨b, -, rfl⟩
          exact .inr (initial_lineSpace b)
      have hfixed : space = labelSpace ∨ space = trackBoxSpace := by simpa using hfixed
      rcases hfixed with rfl | rfl
      · simp at hinitial
      · simp at hinitial
    have hends : [labelSpace, trackBoxSpace].Nodup := by decide
    exact (List.nodup_append'.2
      ⟨hboxes.2 hnames, hlines.2 hnames, hmiddle⟩).append hends hlast

/-! ## Keys -/

theorem map_mapIdx_channels {f : Nat → Channel → Marker} {space : Channel → String}
    (h : ∀ index channel, (f index channel).space = space channel) :
    (c.channels.mapIdx f).map Marker.space = c.channels.map space := by
  apply List.ext_getElem?
  intro i
  simp only [List.getElem?_map, List.getElem?_mapIdx, Option.map_map]
  congr 1
  funext channel
  exact h i channel

theorem map_space_block : (c.block anchor place text sightings).map Marker.space = c.blockSpaces := by
  have hboxes := map_mapIdx_channels (c := c) (f := fun index channel =>
    c.detectionBoxes anchor sightings channel index) fun _ _ => rfl
  have hlines := map_mapIdx_channels (c := c) (f := fun index channel =>
    c.associationLines anchor sightings channel index) fun _ _ => rfl
  rw [block, List.map_append, List.map_append, hboxes, hlines]
  rfl

/-- The keys of an object's block. -/
def blockKeys (c : Canvas) (anchor : Snapshot) : List (String × Int) :=
  c.blockSpaces.map fun space => (space, anchor.identity.markerId)

theorem map_key_block :
    (c.block anchor place text sightings).map Marker.key = c.blockKeys anchor := by
  calc (c.block anchor place text sightings).map Marker.key
      = (c.block anchor place text sightings).map fun m =>
          (m.space, anchor.identity.markerId) := by
        apply List.map_congr_left
        intro m hm
        exact congrArg (Prod.mk m.space) (anchor_of_mem_block hm).2
    _ = ((c.block anchor place text sightings).map Marker.space).map fun space =>
          (space, anchor.identity.markerId) := by
        rw [List.map_map]
        rfl
    _ = c.blockKeys anchor := by
        rw [map_space_block]
        rfl

theorem map_key_drawGroup (h : c.drawGroup group = .ok scene) :
    scene.map Marker.key = group.head?.toList.flatMap c.blockKeys := by
  rcases exists_anchor_of_drawGroup h with ⟨anchor, rest, rfl⟩
  rcases drawGroup_eq_ok_iff.1 h with ⟨place, text, sightings, -, -, -, rfl⟩
  simp [map_key_block]

theorem map_key_flatten {groups : List (List Snapshot)} {blocks : List Scene}
    (h : List.Forall₂ (fun group block => c.drawGroup group = .ok block) groups blocks) :
    blocks.flatten.map Marker.key = (groups.filterMap List.head?).flatMap c.blockKeys := by
  induction h with
  | nil => rfl
  | @cons group block _ _ hblock _ ih =>
      have hgroup := map_key_drawGroup hblock
      rcases exists_anchor_of_drawGroup hblock with ⟨anchor, rest, rfl⟩
      rw [List.flatten_cons, List.map_append, ih, hgroup]
      simp

/-- The keys of a scene depend on the first snapshots of the groups only. -/
theorem map_key_draw {groups : List (List Snapshot)} (h : c.draw groups = .ok scene) :
    scene.map Marker.key = (groups.filterMap List.head?).flatMap c.blockKeys := by
  -- empty groups are not drawn, and have no first snapshot either
  have hanchors : (groups.filter fun group => !group.isEmpty).filterMap List.head? =
      groups.filterMap List.head? := by
    rw [List.filterMap_filter]
    congr 1
    funext group
    cases group with
    | nil => rfl
    | cons anchor rest => rfl
  rcases draw_eq_ok_iff.1 h with ⟨blocks, hblocks, rfl⟩
  rw [map_key_flatten hblocks, hanchors]

theorem nodup_blockKeys_iff (c : Canvas) (anchor : Snapshot) :
    (c.blockKeys anchor).Nodup ↔ (c.channels.map Channel.shortName).Nodup := by
  have hinjective : Function.Injective fun space : String => (space, anchor.identity.markerId) :=
    fun _ _ h => (Prod.mk.inj h).1
  exact (List.nodup_map_iff hinjective).trans (nodup_blockSpaces_iff c)

/-- Two blocks share a key exactly if they share the number; then they share all keys. -/
theorem disjoint_blockKeys_iff {a b : Snapshot} :
    List.Disjoint (c.blockKeys a) (c.blockKeys b) ↔ a.identity.markerId ≠ b.identity.markerId := by
  constructor
  · intro hdisjoint hnumber
    have hlabel : ∀ s : Snapshot, (labelSpace, s.identity.markerId) ∈ c.blockKeys s := by
      intro s
      have hmem : labelSpace ∈ c.blockSpaces := by simp [blockSpaces]
      exact List.mem_map_of_mem hmem
    have hsame := hlabel a
    rw [hnumber] at hsame
    exact hdisjoint hsame (hlabel b)
  · intro hnumber key ha hb
    rcases List.mem_map.1 ha with ⟨space, -, rfl⟩
    rcases List.mem_map.1 hb with ⟨other, -, heq⟩
    exact hnumber (Prod.mk.inj heq).2.symm

/-- The markers of a scene with at least one block are told apart exactly if the channels differ in
their short names and the drawn objects in their numbers. -/
theorem keys_nodup_iff {groups : List (List Snapshot)} (hgroups : ∃ group ∈ groups, group ≠ [])
    (hdraw : c.draw groups = .ok scene) :
    (scene.map Marker.key).Nodup ↔
      (c.channels.map Channel.shortName).Nodup ∧
        ((groups.filterMap List.head?).map fun anchor => anchor.identity.markerId).Nodup := by
  have hanchor : ∃ anchor, anchor ∈ groups.filterMap List.head? := by
    rcases hgroups with ⟨group, hgroup, hne⟩
    exact ⟨group.head hne, List.mem_filterMap.2 ⟨group, hgroup, List.head?_eq_some_head hne⟩⟩
  rw [map_key_draw hdraw, List.nodup_flatMap]
  -- distinct within every block, by the short names, and between the blocks, by the numbers
  constructor
  · rintro ⟨hblocks, hpairs⟩
    rcases hanchor with ⟨anchor, hmem⟩
    refine ⟨(nodup_blockKeys_iff c anchor).1 (hblocks anchor hmem), ?_⟩
    exact List.pairwise_map.2 (hpairs.imp disjoint_blockKeys_iff.1)
  · rintro ⟨hnames, hnumbers⟩
    refine ⟨fun anchor _ => (nodup_blockKeys_iff c anchor).2 hnames, ?_⟩
    exact (List.pairwise_map.1 hnumbers).imp disjoint_blockKeys_iff.2

/-- A canvas with two channels; one short name begins with the other. -/
def pairCanvas : Canvas where
  frame := "map"
  channels := [⟨0, "Lc", "Lc", by decide⟩, ⟨1, "LcLc", "LcLc", by decide⟩]

/-- A snapshot for two channels, which may be associated through the first. -/
def pairSnapshot (number : Nat) (associated : Bool) : Snapshot where
  identity := .ofNat number
  identityText := toString number
  associated := associated
  existence := [0.5, 0.5]

theorem keys_nodup_iff_pair :
    let groups := [[], [pairSnapshot 1 true, pairSnapshot 1 false], [pairSnapshot 2 false]]
    ∃ scene, (∃ group ∈ groups, group ≠ []) ∧ pairCanvas.draw groups = .ok scene ∧
      (scene.map Marker.key).Nodup := by
  intro groups
  have hgroups : ∃ group ∈ groups, group ≠ [] := by simp [groups]
  have hdraw : pairCanvas.draw groups = .ok _ := rfl
  exact ⟨_, hgroups, hdraw, (keys_nodup_iff hgroups hdraw).2 ⟨by decide, by decide⟩⟩

/-! ## Deleting markers -/

theorem channelAction_eq_delete_iff {points : List Point} :
    channelAction points = .delete ↔ points.length = 0 := by
  cases points with
  | nil => simp [channelAction]
  | cons p points => simp [channelAction]

/-- The box marker of a channel deletes unless something of the group came through the channel. -/
theorem detectionBoxes_delete_iff (h : c.Sighted group sightings) {channel : Channel} {index : Nat} :
    (c.detectionBoxes anchor sightings channel index).action = .delete ↔
      ∀ s ∈ group, s.through index = false := by
  have hlength := h.length_detections index
  have haction : (c.detectionBoxes anchor sightings channel index).action =
      channelAction (sightings.filterMap (Sighting.detectionOf? index)) := rfl
  rw [haction, channelAction_eq_delete_iff, hlength, List.countP_eq_zero]
  simp

/-- The line marker of a channel deletes together with its box marker. -/
theorem associationLines_delete_iff (h : c.Sighted group sightings) {channel : Channel}
    {index : Nat} :
    (c.associationLines anchor sightings channel index).action = .delete ↔
      ∀ s ∈ group, s.through index = false := by
  have hlength := h.length_lines index
  have haction : (c.associationLines anchor sightings channel index).action =
      channelAction (sightings.flatMap (Sighting.lineOf index)) := rfl
  rw [haction, channelAction_eq_delete_iff, hlength, Nat.mul_eq_zero, List.countP_eq_zero]
  simp

theorem through_of_ne_delete {index : Nat} {action : Marker.Action}
    (hdelete : action = .delete ↔ ∀ s ∈ group, s.through index = false) (hadd : action = .add) :
    ∃ s ∈ group, s.through index = true := by
  subst hadd
  simpa using hdelete

/-- A marker that deletes belongs to a channel through which nothing came. -/
theorem exists_channel_of_delete (hsighted : c.Sighted group sightings) {m : Marker}
    (hm : m ∈ c.block anchor place text sightings) (hdelete : m.action = .delete) :
    ∃ index channel, c.channels[index]? = some channel ∧
      (m.space = detectionBoxSpace channel ∨ m.space = lineSpace channel) ∧
      ∀ s ∈ group, s.through index = false := by
  rcases mem_block_iff.1 hm with hboxes | hlines | rfl | rfl
  · rcases hboxes with ⟨index, channel, hchannel, rfl⟩
    exact ⟨index, channel, hchannel, .inl rfl, (detectionBoxes_delete_iff hsighted).1 hdelete⟩
  · rcases hlines with ⟨index, channel, hchannel, rfl⟩
    exact ⟨index, channel, hchannel, .inr rfl, (associationLines_delete_iff hsighted).1 hdelete⟩
  · simp [labelMarker, anchored] at hdelete
  · simp [trackBoxes, anchored] at hdelete

/-- A marker that adds in a name space of a channel shows something that came through a channel of
the same short name. -/
theorem exists_channel_of_add (hsighted : c.Sighted group sightings) {m : Marker}
    (hm : m ∈ c.block anchor place text sightings) (hadd : m.action = .add) {channel : Channel}
    (hspace : m.space = detectionBoxSpace channel ∨ m.space = lineSpace channel) :
    ∃ index other, c.channels[index]? = some other ∧ other.shortName = channel.shortName ∧
      ∃ s ∈ group, s.through index = true := by
  -- of the four kinds of markers only the two of channels can lie in such a name space
  have hinitial : initial m.space = some 'd' ∨ initial m.space = some 'a' := by
    rcases hspace with h | h
    · exact .inl (by simp [h])
    · exact .inr (by simp [h])
  rcases mem_block_iff.1 hm with hboxes | hlines | rfl | rfl
  · rcases hboxes with ⟨index, other, hother, rfl⟩
    have hname : other.shortName = channel.shortName := by
      rcases hspace with h | h
      · exact detectionBoxSpace_inj.1 h
      · exact absurd h (ne_of_initial_ne (by simp [detectionBoxes, anchored]))
    exact ⟨index, other, hother, hname,
      through_of_ne_delete (detectionBoxes_delete_iff hsighted) hadd⟩
  · rcases hlines with ⟨index, other, hother, rfl⟩
    have hname : other.shortName = channel.shortName := by
      rcases hspace with h | h
      · exact absurd h (ne_of_initial_ne (by simp [associationLines, anchored]))
      · exact lineSpace_inj.1 h
    exact ⟨index, other, hother, hname,
      through_of_ne_delete (associationLines_delete_iff hsighted) hadd⟩
  · simp [labelMarker, anchored] at hinitial
  · simp [trackBoxes, anchored] at hinitial

/-- A deleting and an adding marker of one key need two channels of one short name, of which the
group shows one only. -/
theorem delete_meets_add_iff_channels (h : c.drawGroup group = .ok scene) :
    (∃ m ∈ scene, ∃ m' ∈ scene, m.action = .delete ∧ m'.action = .add ∧ m.key = m'.key) ↔
      ∃ i j channel other, c.channels[i]? = some channel ∧ c.channels[j]? = some other ∧
        channel.shortName = other.shortName ∧ (∀ s ∈ group, s.through i = false) ∧
        ∃ s ∈ group, s.through j = true := by
  rcases exists_anchor_of_drawGroup h with ⟨anchor, rest, rfl⟩
  rcases drawGroup_eq_ok_iff.1 h with ⟨place, text, sightings, -, -, hsighted, rfl⟩
  constructor
  · rintro ⟨m, hm, m', hm', hdelete, hadd, hkey⟩
    have hspace : m.space = m'.space := (Prod.mk.inj hkey).1
    rcases exists_channel_of_delete hsighted hm hdelete with ⟨i, channel, hi, hfamily, hnone⟩
    rw [hspace] at hfamily
    rcases exists_channel_of_add hsighted hm' hadd hfamily with ⟨j, other, hj, hname, hsome⟩
    exact ⟨i, j, channel, other, hi, hj, hname.symm, hnone, hsome⟩
  · rintro ⟨i, j, channel, other, hi, hj, hname, hnone, s, hs, hthrough⟩
    -- the box markers of the two channels meet, and so do the line markers
    refine ⟨c.detectionBoxes anchor sightings channel i,
      mem_block_iff.2 (.inl ⟨i, channel, hi, rfl⟩),
      c.detectionBoxes anchor sightings other j, mem_block_iff.2 (.inl ⟨j, other, hj, rfl⟩),
      (detectionBoxes_delete_iff hsighted).2 hnone, ?_, ?_⟩
    · cases haction : (c.detectionBoxes anchor sightings other j).action with
      | add => rfl
      | delete =>
          have hfalse := (detectionBoxes_delete_iff hsighted).1 haction s hs
          simp [hfalse] at hthrough
    · exact congrArg (fun space => (space, anchor.identity.markerId))
        (detectionBoxSpace_inj.2 hname)

end Canvas

/-! ## Loaded configurations -/

namespace Channel.Entry

theorem exists_entry_of_load {entries : List Entry} {channels : List Channel}
    (h : load entries = .ok channels) {index : Nat} {channel : Channel}
    (hchannel : channels[index]? = some channel) :
    ∃ entry, entries[index]? = some entry ∧ entry.shortName? = some channel.shortName := by
  rcases exists_describing_of_load h hchannel with ⟨entry, hentry, hdescribes, -⟩
  exact ⟨entry, hentry, hdescribes.shortName⟩

theorem exists_channel_of_load {entries : List Entry} {channels : List Channel}
    (h : load entries = .ok channels) {index : Nat} {entry : Entry}
    (hentry : entries[index]? = some entry) :
    ∃ channel, channels[index]? = some channel ∧ entry.shortName? = some channel.shortName := by
  rcases exists_described_of_load h hentry with ⟨channel, hchannel, hdescribes, -⟩
  exact ⟨channel, hchannel, hdescribes.shortName⟩

end Channel.Entry

namespace Canvas

open Channel (Entry)

variable {c : Canvas} {group : List Snapshot} {scene : Scene}

/-- Two entries of one short name are accepted, and the marker of the one channel then deletes what
the other one shows. -/
theorem twin_entries_delete_meets_add :
    let entries : List Entry :=
      [.mapping { shortName := some "Lc" }, .mapping { shortName := some "Lc" }]
    ∃ channels scene, Entry.load entries = .ok channels ∧
      ({ frame := "map", channels := channels } : Canvas).drawGroup [pairSnapshot 1 true] =
        .ok scene ∧
      ∃ m ∈ scene, ∃ m' ∈ scene, m.action = .delete ∧ m'.action = .add ∧ m.key = m'.key := by
  intro entries
  refine ⟨_, _, rfl, rfl, ?_⟩
  decide

/-- In a scene of one object a marker deletes what another one adds exactly if two entries of the
configuration state one short name and the group shows the channel of one of them only.  Entries with
distinct short names are safe. -/
theorem delete_meets_add_iff {entries : List Entry} (hload : Entry.load entries = .ok c.channels)
    (hdraw : c.drawGroup group = .ok scene) :
    ((∃ m ∈ scene, ∃ m' ∈ scene, m.action = .delete ∧ m'.action = .add ∧ m.key = m'.key) ↔
        ∃ i j a b, entries[i]? = some a ∧ entries[j]? = some b ∧ a.shortName? = b.shortName? ∧
          (∀ s ∈ group, s.through i = false) ∧ ∃ s ∈ group, s.through j = true) ∧
      ((entries.map Entry.shortName?).Nodup →
        ∀ m ∈ scene, ∀ m' ∈ scene, m.action = .delete → m'.action = .add → m.key ≠ m'.key) := by
  have hmeets : (∃ m ∈ scene, ∃ m' ∈ scene,
        m.action = .delete ∧ m'.action = .add ∧ m.key = m'.key) ↔
      ∃ i j a b, entries[i]? = some a ∧ entries[j]? = some b ∧ a.shortName? = b.shortName? ∧
        (∀ s ∈ group, s.through i = false) ∧ ∃ s ∈ group, s.through j = true := by
    rw [delete_meets_add_iff_channels hdraw]
    constructor
    · rintro ⟨i, j, channel, other, hi, hj, hname, hnone, hsome⟩
      rcases Entry.exists_entry_of_load hload hi with ⟨a, ha, hachannel⟩
      rcases Entry.exists_entry_of_load hload hj with ⟨b, hb, hbchannel⟩
      exact ⟨i, j, a, b, ha, hb, by rw [hachannel, hbchannel, hname], hnone, hsome⟩
    · rintro ⟨i, j, a, b, ha, hb, hname, hnone, hsome⟩
      rcases Entry.exists_channel_of_load hload ha with ⟨channel, hi, hachannel⟩
      rcases Entry.exists_channel_of_load hload hb with ⟨other, hj, hbchannel⟩
      rw [hachannel, hbchannel] at hname
      exact ⟨i, j, channel, other, hi, hj, Option.some.inj hname, hnone, hsome⟩
  refine ⟨hmeets, ?_⟩
  intro hnames m hm m' hm' hdelete hadd hkey
  rcases hmeets.1 ⟨m, hm, m', hm', hdelete, hadd, hkey⟩ with
    ⟨i, j, a, b, ha, hb, hname, hnone, s, hs, hthrough⟩
  -- distinct names leave one position only, and nothing can be shown and not shown there
  have hlt : i < (entries.map Entry.shortName?).length := by
    simpa using (List.getElem?_eq_some_iff.1 ha).1
  have hij : i = j := (List.getElem?_inj hlt hnames).1 (by simp [ha, hb, hname])
  have hfalse := hnone s hs
  rw [hij, hthrough] at hfalse
  exact Bool.noConfusion hfalse

/-- One channel has data and the other has none, and their markers stay apart. -/
theorem delete_meets_add_iff_pair :
    let entries : List Entry :=
      [.mapping { shortName := some "Lc" }, .mapping { shortName := some "LcLc" }]
    ∃ scene, Entry.load entries = .ok pairCanvas.channels ∧
      pairCanvas.drawGroup [pairSnapshot 1 true] = .ok scene ∧
      (∃ m ∈ scene, m.action = .delete) ∧
      ∀ m ∈ scene, ∀ m' ∈ scene, m.action = .delete → m'.action = .add → m.key ≠ m'.key := by
  intro entries
  have hload : Entry.load entries = .ok pairCanvas.channels := rfl
  have hdraw : pairCanvas.drawGroup [pairSnapshot 1 true] = .ok _ := rfl
  exact ⟨_, hload, hdraw, by decide, (delete_meets_add_iff hload hdraw).2 (by decide)⟩

end Canvas
end TrackOverlay
