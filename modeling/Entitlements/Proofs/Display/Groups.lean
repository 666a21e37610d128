import Entitlements.Proofs.Display
import Entitlements.Proofs.Sorting

set_option autoImplicit false

/-!
Groups against the flat list. Sorting by name is stable, so it may be done before the items are
parted into groups or afterwards: each group is the part of the flat list that has its key, and
items of one name stay in the order in which they came.
-/

namespace Entitlements.Display

theorem nameLe_trans (a b c : Item) (hab : decide (a.name ≤ b.name)) (hbc : decide (b.name ≤ c.name)) :
    decide (a.name ≤ c.name) := by
  simp only [decide_eq_true_eq] at *
  exact String.le_trans hab hbc

theorem nameLe_total (a b : Item) : decide (a.name ≤ b.name) || decide (b.name ≤ a.name) := by
  simpa using String.le_total a.name b.name

theorem filter_byName (p : Item → Bool) (items : List Item) :
    (byName items).filter p = byName (items.filter p) :=
  filter_mergeSort nameLe_trans nameLe_total p items

theorem pairwise_byName (items : List Item) :
    (byName items).Pairwise fun a b => a.name ≤ b.name :=
  (List.pairwise_mergeSort nameLe_trans nameLe_total items).imp of_decide_eq_true

/-- Items of one name are not moved. -/
theorem filter_byName_of_name (name : String) (items : List Item) :
    (byName items).filter (·.name == name) = items.filter (·.name == name) := by
  rw [filter_byName]
  apply List.mergeSort_of_pairwise
  apply List.pairwise_of_forall_mem_list
  intro a ha b hb
  have same (i : Item) (hi : i ∈ items.filter (·.name == name)) : i.name = name := by
    simpa using (List.mem_filter.mp hi).2
  rw [same a ha, same b hb]
  exact decide_eq_true (String.le_refl name)

theorem mem_groupKeys_iff {items : List Item} {key : String} :
    key ∈ groupKeys items ↔ ∃ i ∈ items, groupKey i.name = key := by
  rw [groupKeys, List.mem_mergeSort, List.mem_eraseDups, List.mem_map]

theorem checked_iff (selected : List Int) (i : Item) :
    checked selected i = true ↔ ∃ id ∈ selected, i.id = some id := by
  cases h : i.id <;> simp [checked, h]

section Group
variable (labels : Option (OrderedMap String)) (selected : List Int) (items : List Item)
  (key : String)

theorem items_group : (group labels selected items key).items =
    ((byName items).filter (groupKey ·.name == key)).map (entry labels selected) := by
  rw [filter_byName]
  rfl

theorem flat_items_group : (group labels selected items key).items.map (·.toFlat) =
    (flat labels items).filter (groupKey ·.name == key) := by
  rw [items_group, List.map_map, flat, List.filter_map]
  rfl

theorem pairwise_group :
    (group labels selected items key).items.Pairwise fun a b => a.name ≤ b.name := by
  rw [items_group, List.pairwise_map]
  exact (pairwise_byName items).filter _

theorem mem_items_group {e : Entry} : e ∈ (group labels selected items key).items ↔
    ∃ i ∈ items, groupKey i.name = key ∧ entry labels selected i = e := by
  simp [items_group, byName, and_assoc]

/-- Entries of one name stand in their group as the items came. -/
theorem filter_items_group {name : String} (own : groupKey name = key) :
    ((group labels selected items key).items.filter (·.name == name)).map
        (fun e => Item.mk e.id e.name) = items.filter (·.name == name) := by
  have named : (fun i : Item => i.name == name && groupKey i.name == key) = (·.name == name) := by
    funext i
    grind
  rw [items_group, List.filter_map, List.map_map, List.filter_filter]
  exact (List.map_id _).trans
    ((congrArg (fun p => (byName items).filter p) named).trans (filter_byName_of_name name items))

theorem mem_groups_iff {g : Group} : g ∈ groups labels selected items ↔
    g.key ∈ groupKeys items ∧ g = group labels selected items g.key := by
  rw [groups_eq, List.mem_map]
  constructor
  · rintro ⟨k, hk, rfl⟩
    exact ⟨hk, rfl⟩
  · rintro ⟨hk, same⟩
    exact ⟨g.key, hk, same.symm⟩

theorem keys_groups : (groups labels selected items).map (·.key) = groupKeys items := by
  rw [groups_eq, List.map_map]
  exact List.map_id _

end Group

/-- Groups stand in the order of their keys, and each is the part of the flat list that has its key:
not empty, by name, and with equal names as they came. Every flat item is in one group. The groups
have all items and nothing else, and an item is checked when its id is selected. -/
theorem groups_part_flat (labels : Option (OrderedMap String)) (selected : List Int)
    (items : List Item) :
    let gs := groups labels selected items
    (gs.map (·.key)).Pairwise (· < ·) ∧
    (∀ g ∈ gs, g.items ≠ [] ∧
      g.items.map (·.toFlat) = (flat labels items).filter (groupKey ·.name == g.key) ∧
      g.items.Pairwise (fun a b => a.name ≤ b.name) ∧
      (∀ name, groupKey name = g.key →
        (g.items.filter (·.name == name)).map (fun e => Item.mk e.id e.name) =
          items.filter (·.name == name)) ∧
      ∀ e ∈ g.items, e.checked = true ↔ ∃ id ∈ selected, e.id = some id) ∧
    (∀ f ∈ flat labels items, ∃! g, g ∈ gs ∧ f ∈ g.items.map (·.toFlat)) ∧
    ((gs.flatMap (·.items)).map fun e => Item.mk e.id e.name).Perm items := by
  intro gs
  refine ⟨keys_groups labels selected items ▸ keys_increasing items, fun g hg => ?_, fun f hf => ?_, ?_⟩
  · obtain ⟨known, made⟩ := (mem_groups_iff labels selected items).mp hg
    obtain ⟨i, hi, own⟩ := mem_groupKeys_iff.mp known
    rw [made]
    refine ⟨?_, flat_items_group labels selected items g.key,
      pairwise_group labels selected items g.key,
      fun name own => filter_items_group labels selected items g.key own, fun e he => ?_⟩
    · exact List.ne_nil_of_mem ((mem_items_group labels selected items g.key).mpr ⟨i, hi, own, rfl⟩)
    · obtain ⟨j, -, -, rfl⟩ := (mem_items_group labels selected items g.key).mp he
      exact checked_iff selected j
  · have own : f ∈ (flat labels items).filter (groupKey ·.name == groupKey f.name) :=
      List.mem_filter.mpr ⟨hf, beq_self_eq_true _⟩
    refine ⟨group labels selected items (groupKey f.name), ⟨?_, ?_⟩, fun g ⟨hg, inside⟩ => ?_⟩
    · obtain ⟨i, hi, rfl⟩ := List.mem_map.mp hf
      exact (mem_groups_iff labels selected items).mpr
        ⟨mem_groupKeys (List.mem_mergeSort.mp hi), rfl⟩
    · exact flat_items_group labels selected items _ ▸ own
    · obtain ⟨-, made⟩ := (mem_groups_iff labels selected items).mp hg
      rw [made, flat_items_group] at inside
      rw [made, eq_of_beq (List.mem_filter.mp inside).2]
  · have moved := (items_groups_perm labels selected items).map fun e => Item.mk e.id e.name
    rw [List.map_map] at moved
    exact moved.trans (List.Perm.of_eq (List.map_id items))

/-- Items of one name keep their order, also when one of them is checked. -/
theorem groups_part_flat_posts :
    let items : List Item :=
      [⟨some 2, "read posts"⟩, ⟨none, "create posts"⟩, ⟨some 1, "read posts"⟩]
    let g := group none [1] items (groupKey "read posts")
    g ∈ groups none [1] items ∧ g.items ≠ [] ∧
      (g.items.filter (·.name == "read posts")).map (fun e => Item.mk e.id e.name) =
        [⟨some 2, "read posts"⟩, ⟨some 1, "read posts"⟩] := by
  intro items g
  have known : g ∈ groups none [1] items :=
    (mem_groups_iff none [1] items).mpr ⟨mem_groupKeys List.mem_cons_self, rfl⟩
  obtain ⟨-, parts, -⟩ := groups_part_flat none [1] items
  obtain ⟨nonempty, -, -, stable, -⟩ := parts g known
  exact ⟨known, nonempty, stable "read posts" rfl⟩

end Entitlements.Display
