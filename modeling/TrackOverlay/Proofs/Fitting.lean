import TrackOverlay.Proofs.FirstFault
import TrackOverlay.Snapshot.Cycle

/-!
# Fitting — what a collection promises of its snapshots

A snapshot fits a count of channels if a drawing with that many channels finds everything that it
needs: three coordinates per point, a probability per channel, and a channel in range if something
is associated.  The checks of a collection are made tracker by tracker; `Cycle.fits_of_mem_collect`
says that together they make every snapshot of a successful collection fit.

Probabilities are not looked at, so a fitting snapshot may hold any.

What goes into a snapshot besides the tracked object are the answers of its tracker
(`Tracker.Answers`); `Cycle.snapshotOf_eq_ok_iff` says which snapshot is made of them.
-/

namespace TrackOverlay

open Outcome

/-- A snapshot with all the data that a drawing with so many channels needs. -/
structure Snapshot.Fits (channelCount : Int) (s : Snapshot) : Prop where
  trackerPoint_length : s.trackerPoint.length = 3
  detectionPoint_length : s.detectionPoint.length = 3
  existence_length : (s.existence.length : Int) = channelCount
  channel_mem : s.associated = true → 0 ≤ s.channel ∧ s.channel < channelCount

/-! ## Answers of a tracker -/

/-- What a tracker says of itself when it is collected. -/
structure Tracker.Answers where
  identityText : String
  existence : List Float
  total : Float

/-- The tracker gives these answers. -/
structure Tracker.Gives (t : Tracker) (a : Tracker.Answers) : Prop where
  identityText : t.identityText = .ok a.identityText
  existence : t.existence = .ok a.existence
  total : t.total = .ok a.total

/-- The snapshot of a tracker with these answers that sees the given object and was assigned the given
detection. -/
def Tracker.Answers.snapshot (a : Tracker.Answers) (time : Float) (channel : Int)
    (object : TrackedObject) (detection? : Option TrackedObject) : Snapshot where
  identity := object.identity
  identityText := a.identityText
  time := time
  channel := channel
  trackerPoint := object.position.toList
  -- without a detection the object is shown at its own position
  detectionPoint := (detection?.getD object).position.toList
  associated := detection?.isSome
  existence := a.existence
  total := a.total

namespace Inquiry

theorem outcome_bind_eq_ok_iff {α β : Type} {x : Inquiry α} {f : α → Inquiry β} {b : β} :
    (x >>= f).outcome = .ok b ↔ ∃ a, x.outcome = .ok a ∧ (f a).outcome = .ok b := by
  rw [outcome_bind]
  cases x.outcome with
  | error fault => simp [Except.bind]
  | ok a => simp [Except.bind]

end Inquiry

namespace Cycle

variable {c : Cycle} {channelCount : Int}

/-- A detection is only returned if its channel is configured. -/
theorem channel_mem_of_associated {position : Nat} {detection : TrackedObject}
    (h : c.associated channelCount position = .ok (some detection)) :
    0 ≤ c.detections.channel ∧ c.detections.channel < channelCount := by
  unfold associated at h
  split at h
  · simp at h
  · split at h
    · simp at h
    · split at h
      · assumption
      · simp at h

theorem snapshotOf_eq_ok_iff {position : Nat} {t : Tracker} {object : TrackedObject} {s : Snapshot} :
    c.snapshotOf channelCount position t object = .ok s ↔
      ∃ answers detection?, t.Gives answers ∧
        c.associated channelCount position = .ok detection? ∧
        (answers.existence.length : Int) = channelCount ∧
        s = answers.snapshot c.time c.detections.channel object detection? := by
  simp only [snapshotOf, bind_eq_ok_iff]
  constructor
  · rintro ⟨identityText, htext, detection?, hassociated, existence, hexistence, h⟩
    split at h
    · next hsize =>
        rcases bind_eq_ok_iff.1 h with ⟨total, htotal, hs⟩
        exact ⟨⟨identityText, existence, total⟩, detection?, ⟨htext, hexistence, htotal⟩, hassociated,
          hsize, (Except.ok.inj hs).symm⟩
    · simp at h
  · rintro ⟨answers, detection?, hgives, hassociated, hsize, rfl⟩
    refine ⟨_, hgives.identityText, _, hassociated, _, hgives.existence, ?_⟩
    rw [if_pos hsize, hgives.total]
    rfl

theorem fits_of_snapshotOf {position : Nat} {t : Tracker} {object : TrackedObject} {s : Snapshot}
    (h : c.snapshotOf channelCount position t object = .ok s) : s.Fits channelCount := by
  rcases snapshotOf_eq_ok_iff.1 h with ⟨answers, detection?, -, hassociated, hsize, rfl⟩
  refine ⟨Position.length_toList _, Position.length_toList _, hsize, ?_⟩
  intro hsome
  rcases Option.isSome_iff_exists.1 hsome with ⟨detection, rfl⟩
  exact channel_mem_of_associated hassociated

/-! ## Outcomes of collections -/

theorem takeSnapshot_eq_ok_iff {position : Nat} {t : Tracker} {s : Snapshot} :
    (c.takeSnapshot channelCount position t).outcome = .ok s ↔
      ∃ object, t.trackedObject c.time = .ok object ∧
        c.snapshotOf channelCount position t object = .ok s := by
  rw [takeSnapshot, Inquiry.outcome_bind_eq_ok_iff]
  rfl

/-- A collection succeeds tracker by tracker. -/
theorem collectFrom_cons_eq_ok_iff {position : Nat} {t : Tracker} {ts : List Tracker}
    {taken : List Snapshot} :
    (c.collectFrom channelCount position (t :: ts)).outcome = .ok taken ↔
      ∃ s rest, (c.takeSnapshot channelCount position t).outcome = .ok s ∧
        (c.collectFrom channelCount (position + 1) ts).outcome = .ok rest ∧ taken = s :: rest := by
  simp only [collectFrom, Inquiry.outcome_bind_eq_ok_iff, Inquiry.outcome_pure, Except.ok.injEq,
    exists_and_left, eq_comm (a := taken)]

theorem fits_of_mem_collectFrom {position : Nat} {ts : List Tracker} {taken : List Snapshot}
    (h : (c.collectFrom channelCount position ts).outcome = .ok taken) :
    ∀ s ∈ taken, s.Fits channelCount := by
  induction ts generalizing position taken with
  | nil =>
      have htaken : taken = [] := by simpa [collectFrom, eq_comm] using h
      simp [htaken]
  | cons t ts ih =>
      rcases collectFrom_cons_eq_ok_iff.1 h with ⟨first, rest, hfirst, hrest, rfl⟩
      rcases takeSnapshot_eq_ok_iff.1 hfirst with ⟨object, -, hobject⟩
      intro s hs
      rcases List.mem_cons.1 hs with rfl | hs
      · exact fits_of_snapshotOf hobject
      · exact ih hrest s hs

/-- All snapshots of a successful collection fit. -/
theorem fits_of_mem_collect {taken : List Snapshot}
    (h : (c.collect channelCount).outcome = .ok taken) {s : Snapshot} (hs : s ∈ taken) :
    s.Fits channelCount := fits_of_mem_collectFrom h s hs

end Cycle
end TrackOverlay
