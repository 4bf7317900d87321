import Mathlib.Algebra.GroupWithZero.Nat
import Mathlib.Data.List.Forall2
import Mathlib.Data.List.Induction
import TrackOverlay.Snapshot.Grouping

/-!
# Gathering — what the groups of a list consist of

Groups are made by inserting one item after the other.  This file describes the outcome without the
insertions:

* `Grouping.ascending_keyed` — groups stand in strictly ascending order of identity;
* `Grouping.mem_keyed_iff` — the group of an identity consists of all items of that identity, in the
  order in which they came, and is there only if there are such items.

The two together determine the groups.  Without the identities they become `Grouping.mem_groups_iff`
and `Grouping.pairwise_groups`.  No item is lost or doubled (`Grouping.flatMap_keyed_perm`), and the groups
of a longer list continue those of a shorter one (`Grouping.keyed_monotone`).

How items of different identities are mixed leaves no trace: lists that agree identity by identity have
the same groups (`Grouping.Matching.groups_eq`).
-/

namespace TrackOverlay

namespace Identity

theorem lt_irrefl (a : Identity) : ¬ a < a := Nat.lt_irrefl a.value

theorem lt_trans {a b c : Identity} (hab : a < b) (hbc : b < c) : a < c := Nat.lt_trans hab hbc

theorem lt_asymm {a b : Identity} (h : a < b) : ¬ b < a := Nat.lt_asymm h

theorem ne_of_lt {a b : Identity} (h : a < b) : a ≠ b := by
  rintro rfl
  exact lt_irrefl a h

theorem lt_trichotomy (a b : Identity) : a < b ∨ a = b ∨ b < a := by
  rcases Nat.lt_trichotomy a.value b.value with hlt | heq | hgt
  · exact .inl hlt
  · exact .inr (.inl (ext heq))
  · exact .inr (.inr hgt)

end Identity

namespace Grouping

variable {α : Type} {identity : α → Identity}

/-! ## Insertion -/

theorem insert_cons_of_lt {a : α} {id : Identity} (h : identity a < id) (group : List α)
    (rest : List (Identity × List α)) :
    insert identity a ((id, group) :: rest) = (identity a, [a]) :: (id, group) :: rest := by
  simp [insert, h]

theorem insert_cons_self (a : α) (group : List α) (rest : List (Identity × List α)) :
    insert identity a ((identity a, group) :: rest) = (identity a, group ++ [a]) :: rest := by
  simp [insert, Identity.lt_irrefl]

theorem insert_cons_of_gt {a : α} {id : Identity} (h : id < identity a) (group : List α)
    (rest : List (Identity × List α)) :
    insert identity a ((id, group) :: rest) = (id, group) :: insert identity a rest := by
  simp [insert, Identity.lt_asymm h, (Identity.ne_of_lt h).symm]

/-- Groups in strictly ascending order of identity. -/
def Ascending (groups : List (Identity × List α)) : Prop := groups.Pairwise fun x y => x.1 < y.1

/-- An insertion adds the item to the group of its identity, which may be new, and leaves the other
groups alone. -/
theorem mem_insert_iff {groups : List (Identity × List α)} (hgroups : Ascending groups) (a : α)
    {id : Identity} {group : List α} :
    (id, group) ∈ insert identity a groups ↔
      (id ≠ identity a ∧ (id, group) ∈ groups) ∨
        (id = identity a ∧ ∃ old, group = old ++ [a] ∧
          ((id, old) ∈ groups ∨ old = [] ∧ ∀ other, (id, other) ∉ groups)) := by
  induction groups with
  | nil =>
      simp [insert]
  | cons first rest ih =>
      rcases first with ⟨key, members⟩
      rcases List.pairwise_cons.1 hgroups with ⟨hfirst, hrest⟩
      rcases Identity.lt_trichotomy (identity a) key with hlt | rfl | hgt
      · -- the identity is new, because all groups lie behind it
        have hnew : ∀ other, (identity a, other) ∉ (key, members) :: rest := by
          intro other hmem
          rcases List.mem_cons.1 hmem with heq | hmem
          · exact Identity.ne_of_lt hlt (congrArg Prod.fst heq)
          · exact Identity.lt_irrefl _ (Identity.lt_trans hlt (hfirst _ hmem))
        rw [insert_cons_of_lt hlt]
        grind
      · have hkey : ∀ other, (identity a, other) ∉ rest := fun other hmem =>
          Identity.lt_irrefl _ (hfirst (identity a, other) hmem)
        rw [insert_cons_self]
        grind
      · have hne : key ≠ identity a := Identity.ne_of_lt hgt
        rw [insert_cons_of_gt hgt, List.mem_cons, ih hrest]
        grind

theorem ascending_insert {groups : List (Identity × List α)} (hgroups : Ascending groups) (a : α) :
    Ascending (insert identity a groups) := by
  induction groups with
  | nil =>
      simp [insert, Ascending]
  | cons first rest ih =>
      rcases first with ⟨key, members⟩
      rcases List.pairwise_cons.1 hgroups with ⟨hfirst, hrest⟩
      rcases Identity.lt_trichotomy (identity a) key with hlt | rfl | hgt
      · rw [insert_cons_of_lt hlt]
        refine List.pairwise_cons.2 ⟨?_, hgroups⟩
        intro later hmem
        rcases List.mem_cons.1 hmem with rfl | hmem
        · exact hlt
        · exact Identity.lt_trans hlt (hfirst _ hmem)
      · rw [insert_cons_self]
        exact List.pairwise_cons.2 ⟨hfirst, hrest⟩
      · rw [insert_cons_of_gt hgt]
        refine List.pairwise_cons.2 ⟨?_, ih hrest⟩
        rintro ⟨id, group⟩ hmem
        rcases (mem_insert_iff hrest a).1 hmem with ⟨-, hold⟩ | ⟨rfl, -⟩
        · exact hfirst _ hold
        · exact hgt

/-! ## Groups -/

theorem keyed_concat (items : List α) (a : α) :
    keyed identity (items ++ [a]) = insert identity a (keyed identity items) := by
  simp [keyed]

theorem ascending_keyed (identity : α → Identity) (items : List α) :
    Ascending (keyed identity items) := by
  induction items using List.reverseRecOn with
  | nil =>
      exact List.Pairwise.nil
  | append_singleton items a ih =>
      rw [keyed_concat]
      exact ascending_insert ih a

/-- The group of an identity consists of the items of that identity, in their order. -/
theorem mem_keyed_iff {items : List α} {id : Identity} {group : List α} :
    (id, group) ∈ keyed identity items ↔
      group ≠ [] ∧ group = items.filter fun a => identity a = id := by
  induction items using List.reverseRecOn generalizing id group with
  | nil =>
      simp [keyed]
  | append_singleton items a ih =>
      rw [keyed_concat, mem_insert_iff (ascending_keyed identity items)]
      simp only [ih, List.filter_append]
      by_cases hid : id = identity a
      · subst hid
        -- whether or not there were such items before, the group continues them
        have hold : ∀ before old : List α,
            ((old ≠ [] ∧ old = before) ∨ (old = [] ∧ ∀ other, ¬ (other ≠ [] ∧ other = before))) ↔
              old = before := by
          intro before old
          by_cases hbefore : before = [] <;> grind
        have hself : [a].filter (fun b => identity b = identity a) = [a] := by simp
        simp only [hold, hself, ne_eq, not_true_eq_false, false_and, true_and, false_or,
          exists_eq_right]
        constructor
        · rintro rfl
          simp
        · exact And.right
      · simp [hid, Ne.symm hid]

theorem identity_eq_of_mem_filter {items : List α} {id : Identity} {a : α}
    (ha : a ∈ items.filter fun b => identity b = id) : identity a = id :=
  of_decide_eq_true (List.mem_filter.1 ha).2

theorem identity_eq_of_mem_keyed {items : List α} {id : Identity} {group : List α}
    (hgroup : (id, group) ∈ keyed identity items) {a : α} (ha : a ∈ group) : identity a = id := by
  rw [(mem_keyed_iff.1 hgroup).2] at ha
  exact identity_eq_of_mem_filter ha

/-! ## Groups without their identities -/

theorem mem_groups_iff {items group : List α} :
    group ∈ groups identity items ↔
      group ≠ [] ∧ ∃ id, group = items.filter fun a => identity a = id := by
  simp only [groups, List.mem_map, Prod.exists, exists_eq_right, mem_keyed_iff, exists_and_left]

/-- No item is made up. -/
theorem mem_of_mem_groups {items group : List α} (hgroup : group ∈ groups identity items) {a : α}
    (ha : a ∈ group) : a ∈ items := by
  rcases mem_groups_iff.1 hgroup with ⟨-, id, rfl⟩
  exact (List.mem_filter.1 ha).1

theorem groups_eq_nil_iff {items : List α} : groups identity items = [] ↔ items = [] := by
  constructor
  · intro hgroups
    cases items with
    | nil => rfl
    | cons a items =>
        have hgroup : (a :: items).filter (fun b => identity b = identity a) ∈
            groups identity (a :: items) := mem_groups_iff.2 ⟨by simp, identity a, rfl⟩
        simp [hgroups] at hgroup
  · rintro rfl
    exact groups_nil identity

/-- All items of an earlier group have a smaller identity than all items of a later one. -/
theorem pairwise_groups (identity : α → Identity) (items : List α) :
    (groups identity items).Pairwise fun g h => ∀ a ∈ g, ∀ b ∈ h, identity a < identity b := by
  refine List.pairwise_map.2 ((ascending_keyed identity items).imp_of_mem ?_)
  rintro ⟨id, g⟩ ⟨id', h⟩ hg hh hlt a ha b hb
  rwa [identity_eq_of_mem_keyed hg ha, identity_eq_of_mem_keyed hh hb]

/-- The identity of a group is that of its first item. -/
theorem map_identity_heads (identity : α → Identity) (items : List α) :
    ((groups identity items).filterMap List.head?).map identity =
      (keyed identity items).map Prod.fst := by
  have hhead : ∀ group ∈ keyed identity items, group.2.head?.map identity = some group.1 := by
    rintro ⟨id, group⟩ hgroup
    rcases List.exists_cons_of_ne_nil (mem_keyed_iff.1 hgroup).1 with ⟨a, rest, rfl⟩
    exact congrArg some (identity_eq_of_mem_keyed hgroup List.mem_cons_self)
  calc ((groups identity items).filterMap List.head?).map identity
      = (keyed identity items).filterMap fun group => group.2.head?.map identity := by
        rw [groups, List.filterMap_map, List.map_filterMap]
        rfl
    _ = (keyed identity items).filterMap fun group => some group.1 :=
        List.filterMap_congr hhead
    _ = (keyed identity items).map Prod.fst := by
        rw [List.filterMap_eq_map']

/-! ## All items together -/

theorem flatMap_insert_perm (a : α) (groups : List (Identity × List α)) :
    ((insert identity a groups).flatMap Prod.snd).Perm (a :: groups.flatMap Prod.snd) := by
  induction groups with
  | nil => exact .refl _
  | cons first rest ih =>
      rcases first with ⟨key, members⟩
      rcases Identity.lt_trichotomy (identity a) key with hlt | rfl | hgt
      · rw [insert_cons_of_lt hlt]
        exact .refl _
      · rw [insert_cons_self]
        simp
      · rw [insert_cons_of_gt hgt]
        exact (ih.append_left members).trans List.perm_middle

/-- Nothing is lost and nothing is doubled: the groups together are the items in another order. -/
theorem flatMap_keyed_perm (identity : α → Identity) (items : List α) :
    ((keyed identity items).flatMap Prod.snd).Perm items := by
  induction items using List.reverseRecOn with
  | nil => exact .refl _
  | append_singleton items a ih =>
      have hinsert : ((insert identity a (keyed identity items)).flatMap Prod.snd).Perm
          (a :: (keyed identity items).flatMap Prod.snd) := flatMap_insert_perm a _
      rw [keyed_concat]
      exact (hinsert.trans (ih.cons a)).trans (List.perm_append_singleton a items).symm

/-- What is counted group by group is counted once. -/
theorem sum_countP_keyed (identity : α → Identity) (p : α → Bool) (items : List α) :
    ((keyed identity items).map fun group => group.2.countP p).sum = items.countP p := by
  rw [← (flatMap_keyed_perm identity items).countP_eq, List.countP_flatMap]
  rfl

/-! ## Groups of longer lists -/

/-- A group that continues another one of the same identity. -/
structure Continues (g h : Identity × List α) : Prop where
  identity_eq : h.1 = g.1
  isPrefix : g.2 <+: h.2

theorem Continues.refl (g : Identity × List α) : Continues g g := ⟨rfl, List.prefix_rfl⟩

theorem Continues.trans {g h k : Identity × List α} (hgh : Continues g h) (hhk : Continues h k) :
    Continues g k :=
  ⟨hhk.identity_eq.trans hgh.identity_eq, hgh.isPrefix.trans hhk.isPrefix⟩

instance : @Std.Refl (Identity × List α) Continues := ⟨Continues.refl⟩

instance : IsTrans (Identity × List α) Continues := ⟨fun _ _ _ => Continues.trans⟩

/-- An insertion keeps all groups in their order, one of them perhaps longer. -/
theorem sublistForall₂_insert (a : α) (groups : List (Identity × List α)) :
    List.SublistForall₂ Continues groups (insert identity a groups) := by
  induction groups with
  | nil => exact .nil
  | cons first rest ih =>
      rcases first with ⟨key, members⟩
      have hrest : List.SublistForall₂ Continues rest rest := refl_of _ rest
      rcases Identity.lt_trichotomy (identity a) key with hlt | rfl | hgt
      · rw [insert_cons_of_lt hlt]
        exact .cons_right (.cons (.refl _) hrest)
      · rw [insert_cons_self]
        exact .cons ⟨rfl, List.prefix_append members [a]⟩ hrest
      · rw [insert_cons_of_gt hgt]
        exact .cons (.refl _) ih

/-- More items only continue groups and put new ones between them. -/
theorem keyed_monotone {items longer : List α} (h : items <+: longer) :
    List.SublistForall₂ Continues (keyed identity items) (keyed identity longer) := by
  rcases h with ⟨more, rfl⟩
  induction more using List.reverseRecOn with
  | nil =>
      rw [List.append_nil]
      exact refl_of _ _
  | append_singleton more a ih =>
      rw [← List.append_assoc, keyed_concat]
      exact trans_of _ ih (sublistForall₂_insert a _)

/-- Every group is the beginning of a group of any longer list. -/
theorem exists_prefix_of_mem_groups {items longer group : List α} (h : items <+: longer)
    (hgroup : group ∈ groups identity items) :
    ∃ other ∈ groups identity longer, group <+: other := by
  rcases mem_groups_iff.1 hgroup with ⟨hne, id, rfl⟩
  have hprefix : items.filter (fun a => identity a = id) <+: longer.filter fun a => identity a = id :=
    h.filter _
  refine ⟨_, mem_groups_iff.2 ⟨?_, id, rfl⟩, hprefix⟩
  intro hnil
  exact hne (List.prefix_nil.1 (hnil ▸ hprefix))

/-! ## Lists that agree identity by identity -/

/-- Lists with the same items of every identity, each in the same order.  Items of different
identities may be mixed differently. -/
def Matching (identity : α → Identity) (xs ys : List α) : Prop :=
  ∀ id, (xs.filter fun a => identity a = id) = ys.filter fun a => identity a = id

theorem Matching.refl (identity : α → Identity) (xs : List α) : Matching identity xs xs :=
  fun _ => rfl

theorem Matching.append {xs ys zs ws : List α} (hxy : Matching identity xs ys)
    (hzw : Matching identity zs ws) : Matching identity (xs ++ zs) (ys ++ ws) := by
  intro id
  rw [List.filter_append, List.filter_append, hxy id, hzw id]

/-- Where no identity occurs twice, any order will do. -/
theorem Matching.of_perm {xs ys : List α} (hperm : xs.Perm ys)
    (hxs : xs.Pairwise fun a b => identity a ≠ identity b) : Matching identity xs ys := by
  intro id
  have hys : ys.Pairwise fun a b => identity a ≠ identity b :=
    hperm.pairwise hxs fun hne => Ne.symm hne
  refine List.Perm.eq_of_pairwise ?_ (hxs.filter _) (hys.filter _) (hperm.filter _)
  -- two items of one filter have one identity, so they are not of two
  intro a b ha hb hne
  have hsame := (identity_eq_of_mem_filter ha).trans (identity_eq_of_mem_filter hb).symm
  exact absurd hsame hne

theorem Ascending.nodup {groups : List (Identity × List α)} (h : Ascending groups) :
    groups.Nodup := by
  apply h.imp
  rintro g h hlt rfl
  exact Identity.lt_irrefl _ hlt

/-- Groups in ascending order are known by which groups there are. -/
theorem Ascending.eq_of_mem_iff {groups others : List (Identity × List α)} (hgroups : Ascending groups)
    (hothers : Ascending others) (h : ∀ group, group ∈ groups ↔ group ∈ others) :
    groups = others := by
  have hperm := (List.perm_ext_iff_of_nodup hgroups.nodup hothers.nodup).2 h
  apply List.Perm.eq_of_pairwise _ hgroups hothers hperm
  intro g h _ _ hgh hhg
  exact absurd hhg (Identity.lt_asymm hgh)

/-- Groups depend on nothing but the items of each identity. -/
theorem Matching.keyed_eq {xs ys : List α} (h : Matching identity xs ys) :
    keyed identity xs = keyed identity ys := by
  apply (ascending_keyed identity xs).eq_of_mem_iff (ascending_keyed identity ys)
  rintro ⟨id, group⟩
  rw [mem_keyed_iff, mem_keyed_iff, h id]

theorem Matching.groups_eq {xs ys : List α} (h : Matching identity xs ys) :
    groups identity xs = groups identity ys := congrArg (List.map Prod.snd) h.keyed_eq

/-- Lists that agree identity by identity have the same items. -/
theorem Matching.perm {xs ys : List α} (h : Matching identity xs ys) : xs.Perm ys := by
  have hxs := flatMap_keyed_perm identity xs
  rw [h.keyed_eq] at hxs
  exact hxs.symm.trans (flatMap_keyed_perm identity ys)

/-! ## The first of ascending items -/

/-- Among items in ascending order the first with a property is the one of least identity. -/
theorem findSome?_eq_some_iff_of_pairwise {β : Type} {items : List α}
    (hitems : items.Pairwise fun a b => identity a < identity b) {f : α → Option β} {b : β} :
    items.findSome? f = some b ↔
      ∃ a ∈ items, f a = some b ∧
        ∀ other ∈ items, identity other < identity a → f other = none := by
  constructor
  · intro hfound
    rcases List.findSome?_eq_some_iff.1 hfound with ⟨before, a, behind, rfl, ha, hbefore⟩
    have hbehind := (List.pairwise_cons.1 (List.pairwise_append.1 hitems).2.1).1
    refine ⟨a, by simp, ha, ?_⟩
    intro other hother hlt
    rcases List.mem_append.1 hother with hother | hother
    · exact hbefore other hother
    · -- nothing from `a` on is less than `a`
      rcases List.mem_cons.1 hother with rfl | hother
      · exact absurd hlt (Identity.lt_irrefl _)
      · exact absurd hlt (Identity.lt_asymm (hbehind other hother))
  · intro hleast
    rcases hleast with ⟨a, ha, hfa, hless⟩
    rcases List.append_of_mem ha with ⟨before, behind, rfl⟩
    refine List.findSome?_eq_some_iff.2 ⟨before, a, behind, rfl, hfa, ?_⟩
    intro other hother
    have hlt : identity other < identity a :=
      (List.pairwise_append.1 hitems).2.2 other hother a List.mem_cons_self
    exact hless other (List.mem_append_left _ hother) hlt

end Grouping
end TrackOverlay
