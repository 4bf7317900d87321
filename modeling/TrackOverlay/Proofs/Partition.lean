import Mathlib.Data.List.Dedup
import Mathlib.Data.List.SplitBy
import TrackOverlay.Proofs.Gathering

/-!
# Partition — groups described from the whole list

Groups are made by one insertion after the other.  Here they are described by two computations that
see the whole list at once:

* `Grouping.keyed_eq_map` — a group for each identity that occurs, in ascending order, consisting of
  the items of that identity in the order in which they came;
* `Grouping.groups_eq_splitBy` — the items sorted by identity, without a change of order among items
  of one identity, and then cut wherever the identity changes.

Two lists have the same groups exactly if they agree identity by identity
(`Grouping.groups_eq_iff_matching`).
-/

namespace TrackOverlay

namespace Identity

/-- Whether an identity stands before another one or is the same. -/
def notAfter (a b : Identity) : Bool := decide (a.value ≤ b.value)

theorem notAfter_trans (a b c : Identity) (hab : notAfter a b = true) (hbc : notAfter b c = true) :
    notAfter a c = true :=
  decide_eq_true (Nat.le_trans (of_decide_eq_true hab) (of_decide_eq_true hbc))

theorem notAfter_total (a b : Identity) : (notAfter a b || notAfter b a) = true := by
  simpa [notAfter] using Nat.le_total a.value b.value

theorem lt_of_notAfter {a b : Identity} (h : notAfter a b = true) (hne : a ≠ b) : a < b := by
  have hvalue : a.value ≠ b.value := fun heq => hne (ext heq)
  exact Nat.lt_of_le_of_ne (of_decide_eq_true h) hvalue

end Identity

namespace Grouping

variable {α : Type} {identity : α → Identity} {items : List α}

/-! ## A group for each identity -/

/-- The identities that occur among items, each once, in ascending order. -/
def identities (identity : α → Identity) (items : List α) : List Identity :=
  (items.map identity).dedup.mergeSort Identity.notAfter

theorem mem_identities_iff {id : Identity} :
    id ∈ identities identity items ↔ ∃ a ∈ items, identity a = id := by
  simp [identities]

theorem ascending_identities (identity : α → Identity) (items : List α) :
    (identities identity items).Pairwise fun a b => a < b := by
  have hsorted : (identities identity items).Pairwise fun a b => Identity.notAfter a b = true :=
    List.pairwise_mergeSort Identity.notAfter_trans Identity.notAfter_total _
  have hnodup : (identities identity items).Nodup :=
    (List.mergeSort_perm _ _).nodup_iff.2 (List.nodup_dedup _)
  exact hsorted.imp₂ (fun _ _ => Identity.lt_of_notAfter) hnodup

/-- The groups are the items of each identity, by ascending identity. -/
theorem keyed_eq_map (identity : α → Identity) (items : List α) :
    keyed identity items =
      (identities identity items).map fun id => (id, items.filter fun a => identity a = id) := by
  apply (ascending_keyed identity items).eq_of_mem_iff
  · exact List.pairwise_map.2 (ascending_identities identity items)
  · rintro ⟨id, group⟩
    -- an identity occurs if and only if it has items
    have hoccurs : (∃ a ∈ items, identity a = id) ↔
        (items.filter fun a => identity a = id) ≠ [] := by
      simp [List.filter_eq_nil_iff]
    simp only [mem_keyed_iff, List.mem_map, Prod.mk.injEq, mem_identities_iff]
    constructor
    · rintro ⟨hne, rfl⟩
      exact ⟨id, hoccurs.2 hne, rfl, rfl⟩
    · rintro ⟨_, hid, rfl, rfl⟩
      exact ⟨hoccurs.1 hid, rfl⟩

theorem groups_eq_map (identity : α → Identity) (items : List α) :
    groups identity items =
      (identities identity items).map fun id => items.filter fun a => identity a = id := by
  rw [groups, keyed_eq_map, List.map_map]
  rfl

/-! ## Lists with the same groups -/

/-- Items of an identity that has a group are known from the groups. -/
theorem filter_eq_of_groups_eq {others : List α} (h : groups identity items = groups identity others)
    {id : Identity} (hne : (items.filter fun a => identity a = id) ≠ []) :
    (items.filter fun a => identity a = id) = others.filter fun a => identity a = id := by
  have hgroup : (items.filter fun a => identity a = id) ∈ groups identity others :=
    h ▸ mem_groups_iff.2 ⟨hne, id, rfl⟩
  rcases mem_groups_iff.1 hgroup with ⟨-, other, hother⟩
  -- an item of the group has both identities
  rcases List.exists_mem_of_ne_nil _ hne with ⟨a, ha⟩
  have hid : identity a = id := identity_eq_of_mem_filter ha
  rw [hother] at ha
  rw [hother, ← identity_eq_of_mem_filter ha, hid]

theorem groups_eq_iff_matching {others : List α} :
    groups identity items = groups identity others ↔ Matching identity items others := by
  constructor
  · intro h id
    by_cases hne : (items.filter fun a => identity a = id) = []
    · by_cases hne' : (others.filter fun a => identity a = id) = []
      · rw [hne, hne']
      · exact (filter_eq_of_groups_eq h.symm hne').symm
    · exact filter_eq_of_groups_eq h hne
  · exact Matching.groups_eq

/-! ## Sorting and cutting -/

/-- Items sorted by identity; items of one identity keep their order. -/
def sorted (identity : α → Identity) (items : List α) : List α :=
  items.mergeSort fun a b => (identity a).notAfter (identity b)

theorem pairwise_sorted (identity : α → Identity) (items : List α) :
    (sorted identity items).Pairwise fun a b => (identity a).notAfter (identity b) = true :=
  List.pairwise_mergeSort (fun a b c => Identity.notAfter_trans (identity a) (identity b) (identity c))
    (fun a b => Identity.notAfter_total (identity a) (identity b)) items

/-- Items of one identity stand in any relation that the identity alone decides. -/
theorem pairwise_filter {r : α → α → Prop} (hr : ∀ a b, identity a = identity b → r a b)
    (items : List α) (id : Identity) : (items.filter fun a => identity a = id).Pairwise r := by
  refine List.pairwise_of_forall_mem_list fun a ha b hb => hr a b ?_
  exact (identity_eq_of_mem_filter ha).trans (identity_eq_of_mem_filter hb).symm

/-- Sorting leaves the items of each identity as they are. -/
theorem matching_sorted (identity : α → Identity) (items : List α) :
    Matching identity (sorted identity items) items := by
  intro id
  have hown : (items.filter fun a => identity a = id).Pairwise fun a b =>
      (identity a).notAfter (identity b) = true := by
    refine pairwise_filter (fun a b heq => ?_) items id
    rw [heq]
    exact decide_eq_true (Nat.le_refl _)
  have hsublist : (items.filter fun a => identity a = id).Sublist (sorted identity items) :=
    List.sublist_mergeSort
      (fun a b c => Identity.notAfter_trans (identity a) (identity b) (identity c))
      (fun a b => Identity.notAfter_total (identity a) (identity b)) hown List.filter_sublist
  have hfilter := hsublist.filter fun a => identity a = id
  simp only [List.filter_filter, Bool.and_self] at hfilter
  -- the sorted list has as many items of the identity, so it has no others
  exact (hfilter.eq_of_length
    ((List.mergeSort_perm items _).filter fun a => identity a = id).length_eq.symm).symm

/-- An item that does not stand before any other joins the last group or makes a new last one. -/
theorem flatMap_insert_of_notAfter {a : α} {groups : List (Identity × List α)}
    (hgroups : Ascending groups) (h : ∀ group ∈ groups, group.1.notAfter (identity a) = true) :
    (insert identity a groups).flatMap Prod.snd = groups.flatMap Prod.snd ++ [a] := by
  induction groups with
  | nil => rfl
  | cons first rest ih =>
      rcases first with ⟨key, members⟩
      rcases List.pairwise_cons.1 hgroups with ⟨hfirst, hrest⟩
      have hkey : key.value ≤ (identity a).value :=
        of_decide_eq_true (h (key, members) List.mem_cons_self)
      rcases Identity.lt_trichotomy (identity a) key with hlt | rfl | hgt
      · exact absurd hkey (Nat.not_le_of_lt hlt)
      · -- a group behind this one would have a greater identity
        have hlast : rest = [] := by
          refine List.eq_nil_iff_forall_not_mem.2 fun group hgroup => ?_
          have hle := of_decide_eq_true (h group (List.mem_cons_of_mem _ hgroup))
          exact absurd (hfirst group hgroup) (Nat.not_lt_of_le hle)
        rw [insert_cons_self, hlast]
        simp
      · rw [insert_cons_of_gt hgt, List.flatMap_cons, List.flatMap_cons, List.append_assoc,
          ih hrest fun group hgroup => h group (List.mem_cons_of_mem _ hgroup)]

/-- The groups of sorted items, one after the other, are these items. -/
theorem flatMap_keyed_of_sorted
    (h : items.Pairwise fun a b => (identity a).notAfter (identity b) = true) :
    (keyed identity items).flatMap Prod.snd = items := by
  induction items using List.reverseRecOn with
  | nil => rfl
  | append_singleton items a ih =>
      rcases List.pairwise_append.1 h with ⟨hitems, -, hlast⟩
      have hgroups : ∀ group ∈ keyed identity items, group.1.notAfter (identity a) = true := by
        rintro ⟨id, group⟩ hgroup
        rcases mem_keyed_iff.1 hgroup with ⟨hne, hfilter⟩
        rcases List.exists_mem_of_ne_nil group hne with ⟨b, hb⟩
        have hid := identity_eq_of_mem_keyed hgroup hb
        rw [hfilter] at hb
        rw [← hid]
        exact hlast b (List.mem_filter.1 hb).1 a (List.mem_singleton_self a)
      rw [keyed_concat, flatMap_insert_of_notAfter (ascending_keyed identity items) hgroups,
        ih hitems]

theorem flatten_groups (identity : α → Identity) (items : List α) :
    (groups identity items).flatten = sorted identity items := by
  rw [← (matching_sorted identity items).groups_eq, groups, ← List.flatMap_def,
    flatMap_keyed_of_sorted (pairwise_sorted identity items)]

/-- The groups are the sorted items, cut wherever the identity changes. -/
theorem groups_eq_splitBy (identity : α → Identity) (items : List α) :
    groups identity items =
      (sorted identity items).splitBy fun a b => decide (identity a = identity b) := by
  rw [← flatten_groups]
  symm
  apply List.splitBy_flatten
  · intro hnil
    exact (mem_groups_iff.1 hnil).1 rfl
  · intro group hgroup
    rcases mem_groups_iff.1 hgroup with ⟨-, id, rfl⟩
    exact (pairwise_filter (fun a b => decide_eq_true) items id).isChain
  · refine ((pairwise_groups identity items).imp_of_mem ?_).isChain
    intro g h hg hh hlt
    have hgne := (mem_groups_iff.1 hg).1
    have hhne := (mem_groups_iff.1 hh).1
    have hne := Identity.ne_of_lt (hlt _ (List.getLast_mem hgne) _ (List.head_mem hhne))
    exact ⟨hgne, hhne, decide_eq_false hne⟩

end Grouping

/-! ## Groups of snapshots -/

/-- The groups of snapshots are, for each object in ascending order, its snapshots in the order in
which they were taken.  Sorting the snapshots by object and cutting them where the object changes
gives the same.  So nothing is lost or doubled, no object has two groups, and lists of snapshots have
the same groups exactly if they agree object by object. -/
theorem Snapshot.groups_partition (xs : List Snapshot) :
    let objects := Grouping.identities Snapshot.identity xs
    Snapshot.groups xs = objects.map (fun id => xs.filter fun s => s.identity = id) ∧
      Snapshot.groups xs =
        (Grouping.sorted Snapshot.identity xs).splitBy (fun s t => decide (s.identity = t.identity)) ∧
      (objects.Pairwise (fun a b => a < b) ∧ ∀ id, id ∈ objects ↔ ∃ s ∈ xs, s.identity = id) ∧
      (Snapshot.groups xs).flatten.Perm xs ∧
      (∀ group ∈ Snapshot.groups xs, group ≠ [] ∧ ∃ id, ∀ s ∈ group, s.identity = id) ∧
      ((Snapshot.groups xs).Pairwise fun g h => ∀ s ∈ g, ∀ t ∈ h, s.identity ≠ t.identity) ∧
      ∀ ys, Snapshot.groups xs = Snapshot.groups ys ↔
        ∀ id, (xs.filter fun s => s.identity = id) = ys.filter fun s => s.identity = id := by
  intro objects
  refine ⟨Grouping.groups_eq_map _ xs, Grouping.groups_eq_splitBy _ xs,
    ⟨Grouping.ascending_identities _ xs, fun id => Grouping.mem_identities_iff⟩, ?_, ?_, ?_, ?_⟩
  · rw [Snapshot.groups, Grouping.flatten_groups]
    exact List.mergeSort_perm xs _
  · intro group hgroup
    rcases Grouping.mem_groups_iff.1 hgroup with ⟨hne, id, rfl⟩
    exact ⟨hne, id, fun s hs => Grouping.identity_eq_of_mem_filter hs⟩
  · refine (Grouping.pairwise_groups Snapshot.identity xs).imp fun hlt s hs t ht => ?_
    exact Identity.ne_of_lt (hlt s hs t ht)
  · intro ys
    exact Grouping.groups_eq_iff_matching

/-- An object that was seen before and after another one has one group, behind the other's. -/
theorem Snapshot.groups_partition_mixed :
    let snapshot := fun number time =>
      ({ identity := .ofNat number, identityText := toString number, time := time } : Snapshot)
    let xs := [snapshot 2 0.5, snapshot 1 0.5, snapshot 2 1.5]
    [snapshot 2 0.5, snapshot 2 1.5] ∈ Snapshot.groups xs ∧
      (∃ id, ∀ s ∈ [snapshot 2 0.5, snapshot 2 1.5], s.identity = id) ∧
      Snapshot.groups xs = [[snapshot 1 0.5], [snapshot 2 0.5, snapshot 2 1.5]] ∧
      (Snapshot.groups xs).flatten.Perm xs ∧
      Snapshot.groups xs = Snapshot.groups [snapshot 1 0.5, snapshot 2 0.5, snapshot 2 1.5] := by
  intro snapshot xs
  rcases Snapshot.groups_partition xs with ⟨-, -, -, hperm, hgroups, -⟩
  have hvalue : Snapshot.groups xs = [[snapshot 1 0.5], [snapshot 2 0.5, snapshot 2 1.5]] := by
    decide
  have hmem : [snapshot 2 0.5, snapshot 2 1.5] ∈ Snapshot.groups xs := by
    rw [hvalue]
    simp
  exact ⟨hmem, (hgroups _ hmem).2, hvalue, hperm, by decide⟩

end TrackOverlay
