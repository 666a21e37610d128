import Entitlements.Display
import Entitlements.Labeller
import Entitlements.NameSet
import Entitlements.Proofs.Sorting
import Mathlib.Data.List.Induction
import Mathlib.Data.List.Perm.Basic

set_option autoImplicit false

/-!
Screens show every permission once. A bucket has the items of its key as they came, so grouping and
sorting only move entries, and the label of an entry is that of its name.
-/

namespace Entitlements

namespace Display

@[simp] theorem name_labelled (labels : Option (OrderedMap String)) (i : Item) :
    (labelled labels i).name = i.name := rfl

theorem label_labelled (labels : OrderedMap String) (i : Item) :
    (labelled (some labels) i).label = (labels.get? i.name).getD i.name := rfl

theorem byName_perm (items : List Item) : (byName items).Perm items :=
  List.mergeSort_perm items _

theorem flat_perm (labels : Option (OrderedMap String)) (items : List Item) :
    (flat labels items).Perm (items.map (labelled labels)) :=
  (byName_perm items).map _

theorem names_flat_perm (labels : Option (OrderedMap String)) (items : List Item) :
    ((flat labels items).map (·.name)).Perm (items.map (·.name)) := by
  have moved := (flat_perm labels items).map (·.name)
  rw [List.map_map] at moved
  exact moved

/-- An item among the entries of its group. -/
def entry (labels : Option (OrderedMap String)) (selected : List Int) (i : Item) : Entry :=
  { labelled labels i with checked := checked selected i }

/-- Going through keys that are distinct takes each item at most once. -/
theorem flatMap_filter_perm {keys : List String} (nodup : keys.Nodup) (items : List Item) :
    (keys.flatMap fun k => items.filter (groupKey ·.name == k)).Perm
      (items.filter (groupKey ·.name ∈ keys)) := by
  induction keys with
  | nil => simp
  | cons k ks ih =>
    obtain ⟨fresh, nodup⟩ := List.nodup_cons.mp nodup
    have first : items.filter (groupKey ·.name == k) =
        (items.filter (groupKey ·.name ∈ k :: ks)).filter (groupKey ·.name == k) := by
      rw [List.filter_filter]
      apply List.filter_congr
      grind
    have others : items.filter (groupKey ·.name ∈ ks) =
        (items.filter (groupKey ·.name ∈ k :: ks)).filter (!groupKey ·.name == k) := by
      rw [List.filter_filter]
      apply List.filter_congr
      grind
    rw [List.flatMap_cons]
    refine ((ih nodup).append_left _).trans ?_
    rw [first, others]
    exact List.filter_append_perm _ _

theorem Buckets.mem_keys_push {key k : String} {i : Item} {bs : Buckets} :
    k ∈ (bs.push key i).map Prod.fst ↔ k = key ∨ k ∈ bs.map Prod.fst := by
  induction bs with
  | nil => simp [push]
  | cons b bs ih =>
    rw [push]
    split
    · simp_all
    · split
      · simp
      · rw [List.map_cons, List.mem_cons, ih, List.map_cons, List.mem_cons]
        exact or_left_comm

/-- The keys of buckets are distinct and in order. -/
def Buckets.Increasing (bs : Buckets) : Prop := (bs.map Prod.fst).Pairwise (· < ·)

namespace Buckets
variable {key : String} {i : Item} {bs : Buckets}

theorem Increasing.push (h : bs.Increasing) : (bs.push key i).Increasing := by
  induction bs with
  | nil => exact List.pairwise_singleton _ _
  | cons b bs ih =>
    obtain ⟨first, rest⟩ := List.pairwise_cons.mp h
    rw [Buckets.push]
    split
    · exact h
    · rename_i other
      split
      · rename_i before
        refine List.pairwise_cons.mpr ⟨fun k hk => ?_, h⟩
        rcases List.mem_cons.mp hk with rfl | later
        · exact before
        · exact Std.lt_trans before (first k later)
      · rename_i behind
        have after : b.1 < key := Std.lt_of_le_of_ne (Std.not_lt.mp behind) (Ne.symm other)
        refine List.pairwise_cons.mpr ⟨fun k hk => ?_, ih rest⟩
        rcases mem_keys_push.mp hk with rfl | later
        · exact after
        · exact first k later

theorem lookup_push (h : bs.Increasing) (k : String) : (bs.push key i).lookup k =
    if k = key then some ((bs.lookup key).getD [] ++ [i]) else bs.lookup k := by
  induction bs with
  | nil => rw [Buckets.push, Pairs.lookup_cons]; rfl
  | cons b bs ih =>
    obtain ⟨l, items⟩ := b
    obtain ⟨first, rest⟩ := List.pairwise_cons.mp h
    rw [Buckets.push, Pairs.lookup_cons, Pairs.lookup_cons]
    by_cases own : key = l
    · subst own
      rw [if_pos rfl, Pairs.lookup_cons, if_pos rfl, Option.getD_some]
      split <;> rfl
    · rw [if_neg own, if_neg own]
      split
      · -- All keys are behind the new one, so it had no bucket.
        rename_i before
        have none : bs.lookup key = none := by
          rw [List.lookup_eq_none_iff]
          intro m hm
          have behind := first m.1 (List.mem_map_of_mem hm)
          exact bne_iff_ne.mpr (Std.ne_of_lt (Std.lt_trans before behind))
        rw [Pairs.lookup_cons, Pairs.lookup_cons, none]
        rfl
      · rw [Pairs.lookup_cons, ih rest]
        by_cases same : k = l
        · rw [if_pos same, if_pos same, if_neg (fun new => own (new.symm.trans same))]
        · rw [if_neg same, if_neg same]

/-- Buckets are told by their keys and what is looked up under them. -/
theorem eq_map_lookup (h : bs.Increasing) :
    bs = (bs.map Prod.fst).map fun k => (k, (bs.lookup k).getD []) := by
  have nodup : (bs.map Prod.fst).Nodup := List.Pairwise.imp Std.ne_of_lt h
  rw [List.map_map]
  refine (List.map_id bs).symm.trans (List.map_congr_left fun m hm => ?_)
  simp [(Pairs.lookup_eq_some_iff nodup).mpr hm]

end Buckets

theorem buckets_concat (items : List Item) (i : Item) :
    buckets (items ++ [i]) = (buckets items).push (groupKey i.name) i := by
  rw [buckets, List.foldl_append]
  rfl

theorem increasing_buckets (items : List Item) : (buckets items).Increasing := by
  induction items using List.reverseRecOn with
  | nil => exact List.Pairwise.nil
  | append_singleton items i ih =>
    rw [buckets_concat]
    exact ih.push

/-- A bucket has the items of its key, as they came. -/
theorem lookup_buckets (items : List Item) (k : String) : ((buckets items).lookup k).getD [] =
    items.filter (groupKey ·.name == k) := by
  induction items using List.reverseRecOn with
  | nil => rfl
  | append_singleton items i ih =>
    rw [buckets_concat, Buckets.lookup_push (increasing_buckets items), List.filter_append, ← ih]
    by_cases own : k = groupKey i.name
    · subst own
      simp
    · simp [own, Ne.symm own]

theorem mem_keys_buckets {items : List Item} {k : String} :
    k ∈ (buckets items).map Prod.fst ↔ k ∈ items.map (groupKey ·.name) := by
  induction items using List.reverseRecOn with
  | nil => exact Iff.rfl
  | append_singleton items i ih =>
    rw [buckets_concat, Buckets.mem_keys_push, ih, List.map_append, List.mem_append, or_comm]
    simp

/-- The keys of some items, each once and in order. -/
def groupKeys (items : List Item) : List String :=
  (items.map (groupKey ·.name)).eraseDups.mergeSort fun a b => decide (a ≤ b)

/-- The group of a key, which has all items of this key. -/
def group (labels : Option (OrderedMap String)) (selected : List Int) (items : List Item)
    (key : String) : Group :=
  { key
    title := title key
    items := (byName (items.filter (groupKey ·.name == key))).map (entry labels selected) }

theorem nodup_groupKeys (items : List Item) : (groupKeys items).Nodup :=
  (List.mergeSort_perm _ _).nodup_iff.mpr (nodup_eraseDups _)

theorem mem_groupKeys {items : List Item} {i : Item} (h : i ∈ items) :
    groupKey i.name ∈ groupKeys items := by
  rw [groupKeys, List.mem_mergeSort, List.mem_eraseDups]
  exact List.mem_map_of_mem h

theorem keys_increasing (items : List Item) : (groupKeys items).Pairwise (· < ·) :=
  increasing_mergeSort (nodup_eraseDups _)

theorem keys_buckets (items : List Item) : (buckets items).map Prod.fst = groupKeys items := by
  have increasing := increasing_buckets items
  have nodup : ((buckets items).map Prod.fst).Nodup := List.Pairwise.imp Std.ne_of_lt increasing
  have perm : ((buckets items).map Prod.fst).Perm (groupKeys items) := by
    rw [List.perm_ext_iff_of_nodup nodup (nodup_groupKeys items)]
    intro k
    rw [mem_keys_buckets, groupKeys, List.mem_mergeSort, List.mem_eraseDups]
  apply List.Perm.eq_of_pairwise _ increasing (keys_increasing items) perm
  intro a b _ _ before behind
  exact absurd (Std.lt_trans before behind) (Std.lt_irrefl)

/-- The buckets are the groups of the keys. -/
theorem groups_eq (labels : Option (OrderedMap String)) (selected : List Int)
    (items : List Item) :
    groups labels selected items = (groupKeys items).map (group labels selected items) := by
  rw [groups, Buckets.eq_map_lookup (increasing_buckets items), keys_buckets, List.map_map]
  apply List.map_congr_left
  intro k _
  rw [Function.comp_apply, lookup_buckets]
  rfl

theorem items_groups_perm (labels : Option (OrderedMap String)) (selected : List Int)
    (items : List Item) : ((groups labels selected items).flatMap (·.items)).Perm
      (items.map (entry labels selected)) := by
  have all : items.filter (groupKey ·.name ∈ groupKeys items) = items :=
    List.filter_eq_self.mpr fun i hi => decide_eq_true (mem_groupKeys hi)
  have parted := flatMap_filter_perm (nodup_groupKeys items) items
  rw [all] at parted
  have sorted : ((groupKeys items).flatMap fun k =>
      byName (items.filter (groupKey ·.name == k))).Perm items :=
    (List.Perm.flatMap_left _ fun k _ => byName_perm _).trans parted
  have entries : (groups labels selected items).flatMap (·.items) =
      ((groupKeys items).flatMap fun k => byName (items.filter (groupKey ·.name == k))).map
        (entry labels selected) := by
    rw [groups_eq, List.flatMap_map, List.map_flatMap]
    rfl
  rw [entries]
  exact sorted.map _

/-- Both ways of showing have the same entries. -/
theorem flat_perm_groups (labels : Option (OrderedMap String)) (selected : List Int)
    (items : List Item) : (flat labels items).Perm
      (((groups labels selected items).flatMap (·.items)).map (·.toFlat)) := by
  have moved := (items_groups_perm labels selected items).map (·.toFlat)
  rw [List.map_map] at moved
  exact (flat_perm labels items).trans moved.symm

end Display

namespace Labeller

/-- The labels of names are looked up one by one. -/
theorem get?_labels (t : Labeller) (names : List String) (n : String) :
    (t.labels names).get? n = if n ∈ names then some (t.label n) else none :=
  OrderedMap.get?_insertAll_map ∅ t.label names n

end Labeller

end Entitlements
