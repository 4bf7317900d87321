import TrackOverlay.Snapshot

/-!
# Grouping — items gathered by identity

Items are sorted into groups of one identity each.  Groups stand in ascending order of identity,
and a group keeps the order in which its items came.  Items are inserted one at a time, so longer
input only extends groups and adds new ones.
-/

namespace TrackOverlay
namespace Grouping

variable {α : Type}

/-- Adds an item to the group of its identity, at the end; a new identity gets a group of its own at
its place in the order. -/
def insert (identity : α → Identity) (a : α) :
    List (Identity × List α) → List (Identity × List α)
  | [] => [(identity a, [a])]
  | (id, group) :: rest =>
      if identity a < id then (identity a, [a]) :: (id, group) :: rest
      else if identity a = id then (id, group ++ [a]) :: rest
      else (id, group) :: insert identity a rest

/-- The groups of a list, each with its identity. -/
def keyed (identity : α → Identity) (items : List α) : List (Identity × List α) :=
  items.foldl (fun groups a => insert identity a groups) []

def groups (identity : α → Identity) (items : List α) : List (List α) :=
  (keyed identity items).map Prod.snd

@[simp] theorem groups_nil (identity : α → Identity) : groups identity [] = [] := rfl

end Grouping

/-- Snapshots gathered by the object they show. -/
def Snapshot.groups (snapshots : List Snapshot) : List (List Snapshot) :=
  Grouping.groups Snapshot.identity snapshots

end TrackOverlay
