import Mathlib.Data.List.Infix
import TrackOverlay.Proofs.Drawing

/-!
# Growth — what more snapshots change about a scene

A group that goes on keeps its first snapshot, and with it everything that its block takes from the
anchor.  What else a block shows are lists made snapshot by snapshot, so more snapshots only add
points at their ends; an empty marker may come to life, and an object that was coasting may not do so
any longer (`Marker.Continues`).  Nothing goes the other way.

New objects get blocks of their own between the old ones: the blocks of a scene of some snapshots are
found again, in their order, in every scene of more snapshots (`Canvas.Blocks.continues`).
-/

namespace TrackOverlay

/-- What a marker keeps when its object is seen again. -/
structure Marker.Continues (m later : Marker) : Prop where
  header_eq : later.header = m.header
  space_eq : later.space = m.space
  id_eq : later.id = m.id
  shape_eq : later.shape = m.shape
  scale_eq : later.scale = m.scale
  lifetime_eq : later.lifetime = m.lifetime
  position_eq : later.position = m.position
  text_eq : later.text = m.text
  isPrefix_points : m.points <+: later.points
  action_cases : later.action = m.action ∨ m.action = .delete ∧ later.action = .add
  color_cases : later.color = m.color ∨
    (m.space = Canvas.labelSpace ∧ m.color = .coastingLabel ∧ later.color = .label) ∨
    (m.space = Canvas.trackBoxSpace ∧ m.color = .coastingTrackBox ∧ later.color = .trackBox)

namespace Canvas

variable {c : Canvas} {anchor : Snapshot} {group more : List Snapshot}
  {sightings seen : List Sighting} {place : Point} {text : String} {block later : Scene}

/-! ## Actions and colors -/

/-- More points may bring a marker to life, and never delete it. -/
theorem channelAction_monotone {points added : List Point} (h : points <+: added) :
    channelAction added = channelAction points ∨
      channelAction points = .delete ∧ channelAction added = .add := by
  cases points with
  | nil =>
      cases added with
      | nil => exact .inl rfl
      | cons p added => exact .inr ⟨rfl, rfl⟩
  | cons p points =>
      cases added with
      | nil => exact absurd (List.prefix_nil.1 h) (List.cons_ne_nil p points)
      | cons q added => exact .inl rfl

/-- Something once associated stays so. -/
theorem coasting_monotone (h : sightings <+: seen) :
    coasting seen = coasting sightings ∨ coasting sightings = true ∧ coasting seen = false := by
  rcases h with ⟨added, rfl⟩
  have hboth : coasting (sightings ++ added) = (coasting sightings && coasting added) :=
    List.all_append
  cases hbefore : coasting sightings with
  | false => simp [hboth, hbefore]
  | true => simp [hboth, hbefore]

/-! ## Markers of a block -/

theorem detectionBoxes_continues (h : sightings <+: seen) (channel : Channel) (index : Nat) :
    (c.detectionBoxes anchor sightings channel index).Continues
      (c.detectionBoxes anchor seen channel index) := by
  have hpoints : sightings.filterMap (Sighting.detectionOf? index) <+:
      seen.filterMap (Sighting.detectionOf? index) := h.filterMap _
  exact ⟨rfl, rfl, rfl, rfl, rfl, rfl, rfl, rfl, hpoints, channelAction_monotone hpoints, .inl rfl⟩

theorem associationLines_continues (h : sightings <+: seen) (channel : Channel) (index : Nat) :
    (c.associationLines anchor sightings channel index).Continues
      (c.associationLines anchor seen channel index) := by
  have hpoints : sightings.flatMap (Sighting.lineOf index) <+:
      seen.flatMap (Sighting.lineOf index) := h.flatMap _
  exact ⟨rfl, rfl, rfl, rfl, rfl, rfl, rfl, rfl, hpoints, channelAction_monotone hpoints, .inl rfl⟩

theorem labelMarker_continues (h : sightings <+: seen) :
    (c.labelMarker anchor place text sightings).Continues
      (c.labelMarker anchor place text seen) := by
  refine ⟨rfl, rfl, rfl, rfl, rfl, rfl, rfl, rfl, List.prefix_rfl, .inl rfl, ?_⟩
  rcases coasting_monotone h with hsame | ⟨hbefore, hafter⟩
  · exact .inl (by simp [labelMarker, hsame])
  · have hgray : (c.labelMarker anchor place text sightings).color = .coastingLabel := by
      simp [labelMarker, anchored, hbefore]
    have hnormal : (c.labelMarker anchor place text seen).color = .label := by
      simp [labelMarker, anchored, hafter]
    exact .inr (.inl ⟨rfl, hgray, hnormal⟩)

theorem trackBoxes_continues (h : sightings <+: seen) :
    (c.trackBoxes anchor sightings).Continues (c.trackBoxes anchor seen) := by
  refine ⟨rfl, rfl, rfl, rfl, rfl, rfl, rfl, rfl, h.map _, .inl rfl, ?_⟩
  rcases coasting_monotone h with hsame | ⟨hbefore, hafter⟩
  · exact .inl (by simp [trackBoxes, anchored, hsame])
  · have hgray : (c.trackBoxes anchor sightings).color = .coastingTrackBox := by
      simp [trackBoxes, anchored, hbefore]
    have hnormal : (c.trackBoxes anchor seen).color = .trackBox := by
      simp [trackBoxes, anchored, hafter]
    exact .inr (.inr ⟨rfl, hgray, hnormal⟩)

theorem forall₂_mapIdx {α β γ : Type} {R : β → γ → Prop} {f : Nat → α → β} {g : Nat → α → γ}
    (h : ∀ index a, R (f index a) (g index a)) (items : List α) :
    List.Forall₂ R (items.mapIdx f) (items.mapIdx g) := by
  rw [List.mapIdx_eq_zipIdx_map, List.mapIdx_eq_zipIdx_map, List.forall₂_map_left_iff,
    List.forall₂_map_right_iff, List.forall₂_same]
  intro numbered _
  exact h numbered.2 numbered.1

theorem block_continues (h : sightings <+: seen) :
    List.Forall₂ Marker.Continues (c.block anchor place text sightings)
      (c.block anchor place text seen) := by
  have hboxes : List.Forall₂ Marker.Continues
      (c.channels.mapIdx fun index channel => c.detectionBoxes anchor sightings channel index)
      (c.channels.mapIdx fun index channel => c.detectionBoxes anchor seen channel index) :=
    forall₂_mapIdx (fun index channel => detectionBoxes_continues h channel index) c.channels
  have hlines : List.Forall₂ Marker.Continues
      (c.channels.mapIdx fun index channel => c.associationLines anchor sightings channel index)
      (c.channels.mapIdx fun index channel => c.associationLines anchor seen channel index) :=
    forall₂_mapIdx (fun index channel => associationLines_continues h channel index) c.channels
  have hlast : List.Forall₂ Marker.Continues
      [c.labelMarker anchor place text sightings, c.trackBoxes anchor sightings]
      [c.labelMarker anchor place text seen, c.trackBoxes anchor seen] :=
    .cons (labelMarker_continues h) (.cons (trackBoxes_continues h) .nil)
  exact List.rel_append (List.rel_append hboxes hlines) hlast

/-! ## Groups and scenes -/

/-- What was sighted of a group is what is sighted first when the group goes on. -/
theorem Sighted.isPrefix (h : c.Sighted group sightings) (hseen : c.Sighted more seen)
    (hlonger : group <+: more) : sightings <+: seen := by
  induction h generalizing more seen with
  | nil => exact List.nil_prefix
  | @cons s first _ _ hfirst _ ih =>
      cases hseen with
      | nil => exact absurd (List.prefix_nil.1 hlonger) (List.cons_ne_nil _ _)
      | @cons t second _ _ hsecond hothers =>
          rcases List.cons_prefix_cons.1 hlonger with ⟨hst, hrest⟩
          rw [← hst] at hsecond
          have hequal : first = second := Except.ok.inj (hfirst.symm.trans hsecond)
          exact List.cons_prefix_cons.2 ⟨hequal, ih hothers hrest⟩

/-- The block of a group that goes on continues the block of the group. -/
theorem drawGroup_continues (hlonger : group <+: more) (hblock : c.drawGroup group = .ok block)
    (hlater : c.drawGroup more = .ok later) : List.Forall₂ Marker.Continues block later := by
  rcases exists_anchor_of_drawGroup hblock with ⟨anchor, rest, rfl⟩
  rcases exists_anchor_of_drawGroup hlater with ⟨first, others, rfl⟩
  rcases List.cons_prefix_cons.1 hlonger with ⟨rfl, -⟩
  rcases drawGroup_eq_ok_iff.1 hblock with ⟨place, text, sightings, hplace, htext, hsighted, rfl⟩
  rcases drawGroup_eq_ok_iff.1 hlater with ⟨place', text', seen, hplace', htext', hseen, rfl⟩
  -- label and its place depend on the anchor only, which the groups have in common
  cases hplace.symm.trans hplace'
  cases htext.symm.trans htext'
  exact block_continues (hsighted.isPrefix hseen hlonger)

/-- A block and what became of it when its object was seen again. -/
def BlockContinues (block later : Identity × Scene) : Prop :=
  later.1 = block.1 ∧ List.Forall₂ Marker.Continues block.2 later.2

theorem shows_continues {groups longer : List (Identity × List Snapshot)}
    {blocks laters : List (Identity × Scene)}
    (hgroups : List.SublistForall₂ Grouping.Continues groups longer)
    (hblocks : List.Forall₂ c.Shows groups blocks) (hlaters : List.Forall₂ c.Shows longer laters) :
    List.SublistForall₂ BlockContinues blocks laters := by
  induction hgroups generalizing blocks laters with
  | nil =>
      cases hblocks with
      | nil => exact .nil
  | cons hgroup _ ih =>
      cases hblocks with
      | @cons _ block _ _ hblock hblocks =>
          cases hlaters with
          | @cons _ later _ _ hlater hlaters =>
              have hid : later.1 = block.1 :=
                (hlater.1.trans hgroup.identity_eq).trans hblock.1.symm
              have hmarkers := drawGroup_continues hgroup.isPrefix hblock.2 hlater.2
              exact .cons ⟨hid, hmarkers⟩ (ih hblocks hlaters)
  | cons_right _ ih =>
      -- a block of an object that was not there before
      cases hlaters with
      | cons _ hlaters => exact .cons_right (ih hblocks hlaters)

/-- The blocks of some snapshots are found again among the blocks of more snapshots. -/
theorem Blocks.continues {snapshots longer : List Snapshot} {blocks laters : List (Identity × Scene)}
    (h : snapshots <+: longer) (hblocks : c.Blocks snapshots blocks)
    (hlaters : c.Blocks longer laters) : List.SublistForall₂ BlockContinues blocks laters :=
  shows_continues (Grouping.keyed_monotone h) hblocks hlaters

end Canvas
end TrackOverlay
