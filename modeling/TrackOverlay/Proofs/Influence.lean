import TrackOverlay.Proofs.MarkerKeys

/-!
# Influence — which data a drawing depends on

A drawing reads little of what it is given.  Of a channel it reads the short name and the position in
the configuration, of a snapshot the tracked position and, if something is associated, the channel and
the detection.  Everything else that it shows comes from the first snapshot of the group.  This file
names who agrees in the data that is read:

* `Canvas.DrawsAlike` — canvases with the same frame, parameters and short names;
* `Snapshot.SightedAlike` — snapshots with the same points, and the same channel if it is read;
* `Snapshot.AnchorsAlike` — snapshots that make the same first one of a group.

Each part of a drawing is unchanged under agreement, and with its parts the drawing
(`Canvas.unread_data_changes_nothing`), whether it succeeds or not.
-/

namespace TrackOverlay

/-- Snapshots of which a drawing sights the same. -/
structure Snapshot.SightedAlike (s t : Snapshot) : Prop where
  trackerPoint_eq : t.trackerPoint = s.trackerPoint
  associated_eq : t.associated = s.associated
  channel_eq : s.associated = true → t.channel = s.channel
  detectionPoint_eq : s.associated = true → t.detectionPoint = s.detectionPoint

/-- Snapshots with the same label, time and identity. -/
structure Snapshot.AnchorsAlike (s t : Snapshot) : Prop where
  identity_eq : t.identity = s.identity
  identityText_eq : t.identityText = s.identityText
  time_eq : t.time = s.time
  existence_eq : t.existence = s.existence
  total_eq : t.total = s.total

namespace Canvas

/-- Canvases that differ at most in the indices and long names of their channels. -/
structure DrawsAlike (c d : Canvas) : Prop where
  frame_eq : d.frame = c.frame
  parameters_eq : d.parameters = c.parameters
  shortNames_eq : d.channels.map Channel.shortName = c.channels.map Channel.shortName

variable {c d : Canvas} {s t : Snapshot} {group others : List Snapshot}

theorem DrawsAlike.refl (c : Canvas) : c.DrawsAlike c := ⟨rfl, rfl, rfl⟩

theorem DrawsAlike.channelCount_eq (h : c.DrawsAlike d) : d.channelCount = c.channelCount := by
  simpa [channelCount] using congrArg List.length h.shortNames_eq

/-! ## Sightings -/

theorem link_eq_of_alike (h : c.DrawsAlike d) (hchannel : t.channel = s.channel)
    (hdetection : t.detectionPoint = s.detectionPoint) : d.link t = c.link s := by
  simp only [link, detectionHeight, hchannel, hdetection, h.channelCount_eq, h.parameters_eq]

theorem sighting_eq_of_alike (h : c.DrawsAlike d) (hst : s.SightedAlike t) :
    d.sighting t = c.sighting s := by
  simp only [sighting, hst.trackerPoint_eq, hst.associated_eq, h.parameters_eq]
  cases hassociated : s.associated with
  | false => rfl
  | true =>
      rw [link_eq_of_alike h (hst.channel_eq hassociated) (hst.detectionPoint_eq hassociated)]

theorem sightings_eq_of_alike (h : c.DrawsAlike d)
    (hgroup : List.Forall₂ Snapshot.SightedAlike group others) :
    others.mapM d.sighting = group.mapM c.sighting := by
  induction hgroup with
  | nil => rfl
  | cons hst _ ih => rw [List.mapM_cons, List.mapM_cons, sighting_eq_of_alike h hst, ih]

/-! ## Labels -/

/-- The token of a channel of the given name. -/
def namedToken (entry : String × Float) : Except Fault String := do
  let p ← percent entry.2
  pure (entry.1 ++ toString p)

/-- Of the channels that contribute to a label, the short names matter. -/
theorem mapM_token_shownChannels (c : Canvas) (s : Snapshot) :
    (c.shownChannels s).mapM token =
      (((c.channels.map Channel.shortName).zip s.existence).filter fun entry =>
        !decide (entry.2 < c.parameters.probabilityThreshold)).mapM namedToken := by
  -- pairing, filtering and writing tokens all commute with reading the names first
  have hnames : (c.channels.map Channel.shortName).zip s.existence =
      (c.channels.zip s.existence).map fun entry => (entry.1.shortName, entry.2) :=
    List.zip_map_left
  rw [hnames, List.filter_map, List.mapM_map]
  rfl

theorem label_eq_of_alike (h : c.DrawsAlike d) (hst : s.AnchorsAlike t) :
    d.label t = c.label s := by
  simp only [label, shownIdentity, mapM_token_shownChannels, h.channelCount_eq, h.parameters_eq,
    h.shortNames_eq, hst.identityText_eq, hst.existence_eq, hst.total_eq]

/-! ## Blocks -/

/-- Markers of channels depend on the channels through their short names. -/
theorem mapIdx_channels_eq_of_alike (h : c.DrawsAlike d) {f g : Nat → Channel → Marker}
    (hmarker : ∀ (index : Nat) (a b : Channel), b.shortName = a.shortName → g index b = f index a) :
    d.channels.mapIdx g = c.channels.mapIdx f := by
  apply List.ext_getElem?
  intro index
  -- alike canvases have channels at the same positions
  have hname := congrArg (fun names => names[index]?) h.shortNames_eq
  simp only [List.getElem?_map] at hname
  rw [List.getElem?_mapIdx, List.getElem?_mapIdx]
  cases ha : c.channels[index]? with
  | none =>
      cases hb : d.channels[index]? with
      | none => rfl
      | some b => simp [ha, hb] at hname
  | some a =>
      cases hb : d.channels[index]? with
      | none => simp [ha, hb] at hname
      | some b =>
          have hshort : b.shortName = a.shortName := by simpa [ha, hb] using hname
          rw [Option.map_some, Option.map_some, hmarker index a b hshort]

theorem anchored_eq_of_alike (h : c.DrawsAlike d) (hidentity : t.identity = s.identity)
    (htime : t.time = s.time) : d.anchored t = c.anchored s := by
  funext space shape scale color points
  simp only [anchored, h.frame_eq, h.parameters_eq, hidentity, htime]

theorem detectionBoxes_eq_of_alike (h : c.DrawsAlike d) (hanchored : d.anchored t = c.anchored s)
    (sightings : List Sighting) (index : Nat) {a b : Channel} (hname : b.shortName = a.shortName) :
    d.detectionBoxes t sightings b index = c.detectionBoxes s sightings a index := by
  unfold detectionBoxes detectionBoxSpace
  rw [hanchored, hname, h.parameters_eq]

theorem associationLines_eq_of_alike (h : c.DrawsAlike d) (hanchored : d.anchored t = c.anchored s)
    (sightings : List Sighting) (index : Nat) {a b : Channel} (hname : b.shortName = a.shortName) :
    d.associationLines t sightings b index = c.associationLines s sightings a index := by
  unfold associationLines lineSpace
  rw [hanchored, hname, h.parameters_eq]

theorem block_eq_of_alike (h : c.DrawsAlike d) (hidentity : t.identity = s.identity)
    (htime : t.time = s.time) (place : Point) (text : String) (sightings : List Sighting) :
    d.block t place text sightings = c.block s place text sightings := by
  have hanchored := anchored_eq_of_alike h hidentity htime
  -- boxes and lines come channel by channel, the label and the track boxes see no channel
  have hboxes : d.channels.mapIdx (fun index channel => d.detectionBoxes t sightings channel index) =
      c.channels.mapIdx fun index channel => c.detectionBoxes s sightings channel index :=
    mapIdx_channels_eq_of_alike h fun index _ _ hname =>
      detectionBoxes_eq_of_alike h hanchored sightings index hname
  have hlines : d.channels.mapIdx (fun index channel => d.associationLines t sightings channel index) =
      c.channels.mapIdx fun index channel => c.associationLines s sightings channel index :=
    mapIdx_channels_eq_of_alike h fun index _ _ hname =>
      associationLines_eq_of_alike h hanchored sightings index hname
  have hlabel : d.labelMarker t place text sightings = c.labelMarker s place text sightings := by
    rw [labelMarker, labelMarker, hanchored, h.parameters_eq]
  have htracks : d.trackBoxes t sightings = c.trackBoxes s sightings := by
    rw [trackBoxes, trackBoxes, hanchored, h.parameters_eq]
  rw [block, block, hboxes, hlines, hlabel, htracks]

/-! ## Groups -/

theorem drawGroup_cons_eq_of_alike (h : c.DrawsAlike d) (hfirst : s.AnchorsAlike t)
    (hst : s.SightedAlike t) (hrest : List.Forall₂ Snapshot.SightedAlike group others) :
    d.drawGroup (t :: others) = c.drawGroup (s :: group) := by
  have hsightings : (t :: others).mapM d.sighting = (s :: group).mapM c.sighting :=
    sightings_eq_of_alike h (.cons hst hrest)
  have hblock : d.block t = c.block s := by
    funext place text sightings
    exact block_eq_of_alike h hfirst.identity_eq hfirst.time_eq place text sightings
  simp only [drawGroup, hst.trackerPoint_eq, label_eq_of_alike h hfirst, hsightings, hblock,
    h.parameters_eq]

/-- Neither the channel and the detection of a snapshot without association, nor anything but the
points of a snapshot after the first, nor the index or the long name of a channel has an influence on
the markers of a group or on the fault that is reported instead. -/
theorem unread_data_changes_nothing (h : c.DrawsAlike d)
    (hgroup : List.Forall₂ Snapshot.SightedAlike group others)
    (hanchor : ∀ s t, group.head? = some s → others.head? = some t → s.AnchorsAlike t) :
    d.drawGroup others = c.drawGroup group := by
  cases hgroup with
  | nil => rfl
  | @cons s t rest later hst hrest =>
      exact drawGroup_cons_eq_of_alike h (hanchor s t rfl rfl) hst hrest

/-- The channels of `pairCanvas` under other indices and long names. -/
def renamedCanvas : Canvas :=
  { pairCanvas with
    channels := pairCanvas.channels.map fun channel =>
      { channel with index := 9, longName := "roof" } }

/-- A later snapshot of another object, with data that would not be accepted of a first one. -/
def carelessSnapshot : Snapshot :=
  { pairSnapshot 2 false with
    channel := -3
    detectionPoint := []
    existence := []
    total := 0.0 / 0.0 }

theorem unread_data_changes_nothing_pair :
    let group := [pairSnapshot 1 true, pairSnapshot 1 false]
    let others := [pairSnapshot 1 true, carelessSnapshot]
    ∃ scene, pairCanvas.DrawsAlike renamedCanvas ∧
      List.Forall₂ Snapshot.SightedAlike group others ∧
      (∀ s t, group.head? = some s → others.head? = some t → s.AnchorsAlike t) ∧
      pairCanvas.drawGroup group = .ok scene ∧ renamedCanvas.drawGroup others = .ok scene := by
  intro group others
  have halike : pairCanvas.DrawsAlike renamedCanvas := ⟨rfl, rfl, rfl⟩
  have hgroup : List.Forall₂ Snapshot.SightedAlike group others :=
    .cons ⟨rfl, rfl, fun _ => rfl, fun _ => rfl⟩
      (.cons ⟨rfl, rfl, nofun, nofun⟩ .nil)
  have hanchor : ∀ s t, group.head? = some s → others.head? = some t → s.AnchorsAlike t := by
    rintro s t ⟨⟩ ⟨⟩
    exact ⟨rfl, rfl, rfl, rfl, rfl⟩
  have hdraw : pairCanvas.drawGroup group = .ok _ := rfl
  exact ⟨_, halike, hgroup, hanchor, hdraw,
    (unread_data_changes_nothing halike hgroup hanchor).trans hdraw⟩

end Canvas
end TrackOverlay
