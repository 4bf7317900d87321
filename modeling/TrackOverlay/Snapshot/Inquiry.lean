import TrackOverlay.Tracker

/-!
# Inquiry — computations that put queries to trackers

Asking a tracker for its object is an effect that matters: a tracker may predict ahead when asked.
An inquiry is a result together with the queries that were put to reach it, in order.  `ask` is the
only step that puts a query; a fault ends the inquiry and keeps the queries put before it.
-/

namespace TrackOverlay

/-- A question to the tracker at a position: where is the object at this time? -/
structure Query where
  position : Nat
  time : Float
  deriving DecidableEq, Repr

/-- The queries put so far, and the result or the fault they ended with. -/
structure Inquiry (α : Type) where
  queries : List Query
  outcome : Except Fault α

namespace Inquiry

/-- A result for which nobody is asked. -/
def ofExcept {α : Type} (outcome : Except Fault α) : Inquiry α := ⟨[], outcome⟩

/-- Goes on with a result, after its queries. -/
def andThen {α β : Type} (x : Inquiry α) (f : α → Inquiry β) : Inquiry β :=
  match x.outcome with
  | .error fault => ⟨x.queries, .error fault⟩
  | .ok a => ⟨x.queries ++ (f a).queries, (f a).outcome⟩

instance : Monad Inquiry where
  pure a := ofExcept (.ok a)
  bind := andThen

/-- Asks the tracker at a position for its object. -/
def ask (position : Nat) (t : Tracker) (time : Float) : Inquiry TrackedObject :=
  ⟨[⟨position, time⟩], t.trackedObject time⟩

/-! ## Results and queries of composed inquiries -/

@[simp] theorem outcome_pure {α : Type} (a : α) : (pure a : Inquiry α).outcome = .ok a := rfl

@[simp] theorem queries_pure {α : Type} (a : α) : (pure a : Inquiry α).queries = [] := rfl

theorem outcome_bind {α β : Type} (x : Inquiry α) (f : α → Inquiry β) :
    (x >>= f).outcome = x.outcome.bind fun a => (f a).outcome := by
  change (andThen x f).outcome = _
  unfold andThen
  cases h : x.outcome with
  | error fault => rfl
  | ok a => rfl

theorem queries_bind {α β : Type} (x : Inquiry α) (f : α → Inquiry β) :
    (x >>= f).queries =
      match x.outcome with
      | .error _ => x.queries
      | .ok a => x.queries ++ (f a).queries := by
  change (andThen x f).queries = _
  unfold andThen
  cases h : x.outcome with
  | error fault => rfl
  | ok a => rfl

end Inquiry
end TrackOverlay
