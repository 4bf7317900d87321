import TrackOverlay.Proofs.CollectRequirements
import TrackOverlay.Proofs.Session.Moves

/-!
# Queries — which trackers a session asks, and when

Asking a tracker may move it on, so it matters how often and for which times it is asked.  This file
defines

* `Cycle.asked` — one query to each of the first so many positions, all for the time of the cycle;
* `Cycle.reach` — how many trackers a collection asks: all of them, or those up to the first misfit;
* `Session.Call` — a request together with the names of the trackers in its cycle, and the times at which
  a run asks the tracker of a name (`Session.timesAsked`).

A collection asks in order and once for each position, the misfit included and nobody behind it
(`Cycle.queries_collect`).  No other request asks anybody, so the times at which a tracker is asked over a
run can be read off the collections alone (`Session.collections_alone_ask`).
-/

namespace TrackOverlay

open Requirement Outcome

namespace Inquiry

theorem queries_bind_pure {α β : Type} (x : Inquiry α) (g : α → β) :
    (x >>= fun a => pure (g a)).queries = x.queries := by
  rw [queries_bind]
  cases x.outcome with
  | error fault => rfl
  | ok a => exact List.append_nil x.queries

end Inquiry

namespace Cycle

variable {c : Cycle} {channelCount : Int} {position : Nat} {t : Tracker}

/-! ## Queries of a collection -/

/-- One query to each of the first so many positions, in order. -/
def asked (c : Cycle) (count : Nat) : List Query :=
  (List.range count).map fun position => ⟨position, c.time⟩

theorem accepts_iff_fault? :
    fault? (c.takeSnapshot channelCount position t).outcome = none ↔
      c.Accepts channelCount position t :=
  (decides_takeSnapshot c channelCount position t).eq_none_iff.trans forall_met_trackerRequirements_iff

instance : Decidable (c.Accepts channelCount position t) := decidable_of_iff _ accepts_iff_fault?

theorem not_accepts_of_firstUnmet {fault : Fault}
    (h : FirstUnmet (c.trackerRequirements channelCount position t) fault) :
    ¬ c.Accepts channelCount position t := by
  intro hfits
  rcases h.exists_unmet with ⟨r, hr, hunmet⟩
  exact hunmet (forall_met_trackerRequirements_iff.2 hfits r hr)

/-- How many trackers a collection asks: those up to the first one whose data does not fit, or all. -/
def reach (c : Cycle) (channelCount : Int) : Nat :=
  min (c.trackers.zipIdx.findIdx (fun seat => ¬ c.Accepts channelCount seat.2 seat.1) + 1)
    c.trackers.length

/-- A tracker is asked first of all, whatever then becomes of its snapshot. -/
theorem queries_takeSnapshot (c : Cycle) (channelCount : Int) (position : Nat) (t : Tracker) :
    (c.takeSnapshot channelCount position t).queries = [⟨position, c.time⟩] := by
  rw [takeSnapshot, Inquiry.queries_bind]
  cases (Inquiry.ask position t c.time).outcome with
  | error fault => rfl
  | ok object => rfl

theorem queries_collectFrom (c : Cycle) (channelCount : Int) (ts : List Tracker) (position : Nat) :
    (c.collectFrom channelCount position ts).queries =
      ((ts.zipIdx position).take
        ((ts.zipIdx position).findIdx (fun seat => ¬ c.Accepts channelCount seat.2 seat.1) + 1)).map
          fun seat => ⟨seat.2, c.time⟩ := by
  induction ts generalizing position with
  | nil => rfl
  | cons t ts ih =>
      rw [collectFrom, Inquiry.queries_bind, List.zipIdx_cons, List.findIdx_cons, queries_takeSnapshot]
      cases houtcome : (c.takeSnapshot channelCount position t).outcome with
      | error fault =>
          have hmisfit : ¬ c.Accepts channelCount position t := by
            rw [← accepts_iff_fault?, houtcome]
            simp
          simp [hmisfit]
      | ok snapshot =>
          have hfits : c.Accepts channelCount position t := by
            rw [← accepts_iff_fault?, houtcome]
            rfl
          simp [hfits, Inquiry.queries_bind_pure, ih]

/-- A collection asks the trackers in its reach, each once and in order. -/
theorem queries_collect (c : Cycle) (channelCount : Int) :
    (c.collect channelCount).queries = c.asked (c.reach channelCount) := by
  have hpositions (count : Nat) :
      ((c.trackers.zipIdx.take count).map fun seat => (⟨seat.2, c.time⟩ : Query)) =
        ((c.trackers.zipIdx.map Prod.snd).take count).map fun position => ⟨position, c.time⟩ := by
    rw [List.map_take, List.map_take, List.map_map]
    rfl
  rw [collect, queries_collectFrom, hpositions, List.zipIdx_map_snd, ← List.range_eq_range',
    List.take_range]
  rfl

theorem reach_of_accepts (h : ∀ i t, c.trackers[i]? = some t → c.Accepts channelCount i t) :
    c.reach channelCount = c.trackers.length := by
  have hall : c.trackers.zipIdx.findIdx (fun seat => ¬ c.Accepts channelCount seat.2 seat.1) =
      c.trackers.length := by
    rw [← List.length_zipIdx (l := c.trackers) (i := 0), List.findIdx_eq_length]
    rintro ⟨t, i⟩ hseat
    simpa using h i t (List.mk_mem_zipIdx_iff_getElem?.1 hseat)
  rw [reach, hall]
  exact Nat.min_eq_right (Nat.le_succ _)

theorem reach_of_misfit {i : Nat} (ht : c.trackers[i]? = some t)
    (hbefore : ∀ j < i, ∀ u, c.trackers[j]? = some u → c.Accepts channelCount j u)
    (hmisfit : ¬ c.Accepts channelCount i t) : c.reach channelCount = i + 1 := by
  rcases List.getElem?_eq_some_iff.1 ht with ⟨hi, rfl⟩
  have hfirst : c.trackers.zipIdx.findIdx (fun seat => ¬ c.Accepts channelCount seat.2 seat.1) = i := by
    have hi' : i < c.trackers.zipIdx.length := by simpa using hi
    rw [List.findIdx_eq hi']
    refine ⟨by simpa using hmisfit, ?_⟩
    intro j hj
    simpa using hbefore j hj _ (List.getElem?_eq_getElem (Nat.lt_trans hj hi))
  rw [reach, hfirst]
  exact Nat.min_eq_left hi

end Cycle

namespace Session

variable {c : Canvas} {s : Session} {κ : Type} [DecidableEq κ]

/-! ## Queries of a request -/

theorem step_collect_queries (c : Canvas) (s : Session) (cycle : Cycle) :
    (s.step c (.collect cycle)).queries = cycle.asked (cycle.reach c.channelCount) := by
  rw [step, collect_queries, Cycle.queries_collect]

theorem process_queries (s : Session) : s.process.queries = [] := by
  unfold process
  split
  · rfl
  · rfl

theorem render_queries (c : Canvas) (s : Session) : (s.render c).queries = [] := by
  unfold render
  split
  · cases c.draw s.groups with
    | error fault => rfl
    | ok scene => rfl
  · rfl

theorem step_queries_of_ne_collect {request : Request} (h : ∀ cycle, request ≠ .collect cycle) :
    (s.step c request).queries = [] := by
  cases request with
  | collect cycle => exact absurd rfl (h cycle)
  | process => exact process_queries s
  | render => exact render_queries c s
  | finalize =>
      have hparts : (s.step c .finalize).queries = s.process.queries ++ (s.process.next.render c).queries :=
        rfl
      rw [hparts, process_queries, render_queries]
      rfl
  | _ => rfl

/-! ## Trackers with a name -/

/-- A request together with the names of the trackers in its cycle, in the order of the list.  A name may
stand in several places, and its tracker may answer differently in each of them. -/
structure Call (κ : Type) where
  request : Request
  roster : List κ

/-- The times for which queries ask the tracker of a name. -/
def Call.times (call : Call κ) (k : κ) (queries : List Query) : List Float :=
  queries.filterMap fun query => if call.roster[query.position]? = some k then some query.time else none

/-- The time of a collection, as often as a name stands among the trackers in its reach. -/
def Call.timesDue (c : Canvas) (call : Call κ) (k : κ) : List Float :=
  match call.request with
  | .collect cycle =>
      List.replicate ((call.roster.take (cycle.reach c.channelCount)).count k) cycle.time
  | _ => []

/-- The times for which a run asks the tracker of a name, in order. -/
def timesAsked (c : Canvas) (s : Session) (calls : List (Call κ)) (k : κ) : List Float :=
  (List.zipWith (fun call step => Call.times call k step.queries) calls
    (run c s (calls.map Call.request))).flatten

theorem Call.times_asked (call : Call κ) (k : κ) (cycle : Cycle) (count : Nat) :
    call.times k (cycle.asked count) =
      List.replicate ((call.roster.take count).count k) cycle.time := by
  induction count with
  | zero => simp [times, Cycle.asked]
  | succ count ih =>
      have hlast : cycle.asked (count + 1) = cycle.asked count ++ [⟨count, cycle.time⟩] := by
        simp [Cycle.asked, List.range_succ]
      -- whoever stands at the last of the positions is asked once more
      have hone : call.times k [⟨count, cycle.time⟩] =
          List.replicate (call.roster[count]?.toList.count k) cycle.time := by
        cases hname : call.roster[count]? with
        | none => simp [times, hname]
        | some name =>
            by_cases hk : name = k
            · simp [times, hname, hk]
            · simp [times, hname, hk]
      have happend : call.times k (cycle.asked count ++ [⟨count, cycle.time⟩]) =
          call.times k (cycle.asked count) ++ call.times k [⟨count, cycle.time⟩] :=
        List.filterMap_append
      rw [hlast, happend, ih, hone, List.take_add_one, List.count_append,
        List.replicate_append_replicate]

theorem Call.times_step (c : Canvas) (s : Session) (call : Call κ) (k : κ) :
    call.times k (s.step c call.request).queries = call.timesDue c k := by
  unfold timesDue
  split
  · next cycle hrequest => rw [hrequest, step_collect_queries, Call.times_asked]
  · next hother =>
      rw [step_queries_of_ne_collect hother]
      rfl

theorem timesAsked_eq_flatMap (c : Canvas) (s : Session) (calls : List (Call κ)) (k : κ) :
    timesAsked c s calls k = calls.flatMap fun call => call.timesDue c k := by
  induction calls generalizing s with
  | nil => rfl
  | cons call calls ih =>
      rw [List.flatMap_cons, ← Call.times_step c s, ← ih (s.step c call.request).next]
      rfl

/-! ## Whole runs -/

/-- A collection asks one tracker after the other, each position once and for the time of its cycle: all of
them if it succeeds, and up to the misfit that it reports if it is refused for a tracker.  If it is
refused although all trackers fit, for the number of its channel alone, it has asked them all.  No other
request asks anybody, so over a run a tracker is asked for the time of each collection as often as it
stands among those in its reach. -/
theorem collections_alone_ask (c : Canvas) (s : Session) :
    (∀ cycle, (s.step c (.collect cycle)).reply = .ok .done →
        (s.step c (.collect cycle)).queries = cycle.asked cycle.trackers.length ∧
          cycle.reach c.channelCount = cycle.trackers.length) ∧
      (∀ cycle fault, (s.step c (.collect cycle)).reply = .error fault →
        (∃ i t, cycle.trackers[i]? = some t ∧
          (∀ j < i, ∀ u, cycle.trackers[j]? = some u → cycle.Accepts c.channelCount j u) ∧
          FirstUnmet (cycle.trackerRequirements c.channelCount i t) fault ∧
          (s.step c (.collect cycle)).queries = cycle.asked (i + 1) ∧
          cycle.reach c.channelCount = i + 1) ∨
        (¬ c.Writes cycle.detections.channel ∧
          (∀ i t, cycle.trackers[i]? = some t → cycle.Accepts c.channelCount i t) ∧
          (s.step c (.collect cycle)).queries = cycle.asked cycle.trackers.length ∧
          cycle.reach c.channelCount = cycle.trackers.length)) ∧
      (∀ request, (∀ cycle, request ≠ .collect cycle) → (s.step c request).queries = []) ∧
      ∀ (calls : List (Call κ)) (k : κ),
        timesAsked c s calls k = calls.flatMap fun call => call.timesDue c k := by
  -- a cycle of which all trackers fit is asked to its end
  have hall : ∀ cycle : Cycle, (∃ taken, (cycle.collect c.channelCount).outcome = .ok taken) →
      (∀ i t, cycle.trackers[i]? = some t → cycle.Accepts c.channelCount i t) ∧
        (s.step c (.collect cycle)).queries = cycle.asked cycle.trackers.length ∧
        cycle.reach c.channelCount = cycle.trackers.length := by
    intro cycle htaken
    have hmet := (cycle.decides_collect c.channelCount).exists_ok_iff.1 htaken
    have hfits := Cycle.forall_met_collectRequirements_iff.1 hmet
    have hreach := Cycle.reach_of_accepts hfits
    exact ⟨hfits, by rw [step_collect_queries, hreach], hreach⟩
  refine ⟨?_, ?_, fun request => step_queries_of_ne_collect, timesAsked_eq_flatMap c s⟩
  · intro cycle hdone
    exact (hall cycle (collect_reply_eq_done_iff.1 hdone).1).2
  · intro cycle fault hrefused
    cases houtcome : (cycle.collect c.channelCount).outcome with
    | ok taken =>
        refine .inr ⟨fun hwrites => ?_, hall cycle ⟨taken, houtcome⟩⟩
        have hdone := (collect_reply_eq_done_iff (s := s)).2 ⟨⟨taken, houtcome⟩, hwrites⟩
        rw [hdone] at hrefused
        simp at hrefused
    | error other =>
        rw [step, collect_of_misfit houtcome] at hrefused
        cases hrefused
        have hunmet := (cycle.decides_collect c.channelCount).eq_error_iff.1 houtcome
        rcases Cycle.firstUnmet_collectRequirements_iff.1 hunmet with ⟨i, t, ht, hbefore, hfirst⟩
        have hreach := Cycle.reach_of_misfit ht hbefore (Cycle.not_accepts_of_firstUnmet hfirst)
        exact .inl ⟨i, t, ht, hbefore, hfirst, by rw [step_collect_queries, hreach], hreach⟩

/-- A cycle with one tracker in its first and its last place, and another one in between. -/
def visitedCycle (between : Tracker) : Cycle :=
  smallCycle [smallTracker 1 0.5, between, smallTracker 1 0.5] none

/-- The other tracker fits the first time and has no probabilities the second time, so that the first one
is asked twice and then once. -/
def visitingCalls : List (Call String) :=
  [⟨.collect (visitedCycle (smallTracker 2 0.5)), ["first", "other", "first"]⟩,
    ⟨.finalize, []⟩,
    ⟨.collect (visitedCycle { smallTracker 2 0.5 with existence := .ok [] }), ["first", "other", "first"]⟩]

/-- Both collections ask in order, the refused one not behind its misfit. -/
theorem collections_alone_ask_visits :
    let s : Session := {}
    let accepted := Request.collect (visitedCycle (smallTracker 2 0.5))
    let misfit := visitedCycle { smallTracker 2 0.5 with existence := .ok [] }
    (s.step smallCanvas accepted).reply = .ok .done ∧
      (s.step smallCanvas accepted).queries = [⟨0, 0.5⟩, ⟨1, 0.5⟩, ⟨2, 0.5⟩] ∧
      (s.step smallCanvas (.collect misfit)).reply = .error (.violation (.vectorSize "2" 0 1)) ∧
      (s.step smallCanvas (.collect misfit)).queries = [⟨0, 0.5⟩, ⟨1, 0.5⟩] ∧
      (s.step smallCanvas .finalize).queries = [] ∧
      timesAsked smallCanvas s visitingCalls "first" = [0.5, 0.5, 0.5] := by
  intro s accepted misfit
  rcases collections_alone_ask (κ := String) smallCanvas s with ⟨hsucceeds, hrefuses, hothers, hrun⟩
  have hdone : (s.step smallCanvas accepted).reply = .ok .done := rfl
  have hrefused :
      (s.step smallCanvas (.collect misfit)).reply = .error (.violation (.vectorSize "2" 0 1)) := rfl
  rcases hrefuses misfit _ hrefused with ⟨i, -, -, -, -, hasked, -⟩ | ⟨hwrites, -⟩
  rotate_left
  · exact absurd smallCanvas_writes hwrites
  have hcount : (s.step smallCanvas (.collect misfit)).queries.length = 2 := rfl
  obtain rfl : i = 1 := by simpa [hasked, Cycle.asked] using hcount
  exact ⟨hdone, (hsucceeds _ hdone).1, hrefused, hasked,
    hothers .finalize (by simp), (hrun visitingCalls "first").trans (by decide)⟩

end Session
end TrackOverlay
