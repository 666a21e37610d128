import Entitlements.Proofs.Catalog.Size
import Entitlements.Proofs.Display.Groups

set_option autoImplicit false

/-!
Groups of a catalog. Where no item has a space or a dot and no resource has a dot, the group that is
read off a name is the resource the name was made for. So the screen parts the names of a catalog
as the catalog does.
-/

namespace Entitlements

namespace Display
open Catalog (authored compile itemsOf)

theorem groupKey_permissionName {action resource : String} (plain : ' ' ∉ action.toList)
    (dotless : '.' ∉ action.toList) (named : '.' ∉ resource.toList) :
    groupKey (permissionName action resource) = resource := by
  have whole : '.' ∉ (permissionName action resource).toList := by
    simp [permissionName, dotless, named]
  rw [groupKey, Text.cutAt_of_notMem whole, cutAt_permissionName plain]
  exact String.ofList_toList

/-- Names with the ids that they have. -/
def identified (ids : String → Option Int) (names : List String) : List Item :=
  names.map fun n => ⟨ids n, n⟩

section Plain
variable {resources specials : ItemTable}
  (plain : ∀ items ∈ resources.values ++ specials.values, ∀ x ∈ items,
    ' ' ∉ x.toList ∧ '.' ∉ x.toList)
  (named : ∀ r ∈ resources.keys ++ specials.keys, '.' ∉ r.toList)
include plain named

theorem groupKey_of_mem_authored {r n : String} (h : n ∈ authored resources specials r) :
    groupKey n = r := by
  have spaceless : ∀ items ∈ resources.values ++ specials.values, ∀ x ∈ items, ' ' ∉ x.toList :=
    fun items h x hx => (plain items h x hx).1
  have resource := named r (Catalog.mem_keys_of_authored (List.ne_nil_of_mem h))
  obtain ⟨x, hx, rfl⟩ := (Catalog.mem_authored_of_plain spaceless).mp h
  obtain ⟨items, known, hx⟩ := Catalog.exists_values_of_mem_itemsOf hx
  exact groupKey_permissionName (plain items known x hx).1 (plain items known x hx).2 resource

/-- The names of a resource are those of the catalog that tell it. -/
theorem mem_authored_iff_groupKey {r n : String} : n ∈ authored resources specials r ↔
    n ∈ (compile resources specials).names ∧ groupKey n = r := by
  rw [Catalog.mem_names_compile_iff]
  constructor
  · exact fun h => ⟨⟨r, h⟩, groupKey_of_mem_authored plain named h⟩
  · rintro ⟨⟨r', h⟩, rfl⟩
    rwa [groupKey_of_mem_authored plain named h]

/-- The screen has one group for each resource of the catalog. -/
theorem groupKeys_identified_perm (ids : String → Option Int) :
    (groupKeys (identified ids (compile resources specials).names)).Perm
      (compile resources specials).groups.keys := by
  rw [List.perm_ext_iff_of_nodup (nodup_groupKeys _) (compile resources specials).groups.nodup_keys]
  intro r
  rw [mem_groupKeys_iff, Catalog.mem_keys_compile_iff]
  constructor
  · rintro ⟨i, hi, rfl⟩
    obtain ⟨n, hn, rfl⟩ := List.mem_map.mp hi
    exact List.ne_nil_of_mem ((mem_authored_iff_groupKey plain named).mpr ⟨hn, rfl⟩)
  · intro given
    obtain ⟨n, hn⟩ := List.exists_mem_of_ne_nil _ given
    obtain ⟨hn, told⟩ := (mem_authored_iff_groupKey plain named).mp hn
    exact ⟨_, List.mem_map_of_mem hn, told⟩

theorem names_group_identified_perm (labels : Option (OrderedMap String)) (selected : List Int)
    (ids : String → Option Int) (r : String) :
    ((group labels selected (identified ids (compile resources specials).names) r).items.map
      (·.name)).Perm (authored resources specials r).eraseDups := by
  have moved := (byName_perm ((identified ids (compile resources specials).names).filter
    (groupKey ·.name == r))).map (·.name)
  have own : ((identified ids (compile resources specials).names).filter
      (groupKey ·.name == r)).map (·.name) =
        (compile resources specials).names.filter (groupKey · == r) := by
    rw [identified, List.filter_map, List.map_map]
    exact List.map_id _
  rw [own] at moved
  rw [group, List.map_map]
  refine moved.trans ?_
  rw [List.perm_ext_iff_of_nodup
    ((Catalog.consistent_compile resources specials).nodup_names.filter _) (nodup_eraseDups _)]
  intro n
  rw [List.mem_filter, beq_iff_eq, List.mem_eraseDups, mem_authored_iff_groupKey plain named]

end Plain

theorem id_of_mem_group_identified {labels : Option (OrderedMap String)} {selected : List Int}
    {ids : String → Option Int} {names : List String} {r : String} {e : Entry}
    (h : e ∈ (group labels selected (identified ids names) r).items) : e.id = ids e.name := by
  obtain ⟨i, hi, -, rfl⟩ := (mem_items_group labels selected _ r).mp h
  obtain ⟨n, -, rfl⟩ := List.mem_map.mp hi
  rfl

/-- A screen of all names of a catalog has one group for each resource, and in it the names of this
resource with their ids. -/
theorem groups_are_resources (resources specials : ItemTable)
    (plain : ∀ items ∈ resources.values ++ specials.values, ∀ x ∈ items,
      ' ' ∉ x.toList ∧ '.' ∉ x.toList)
    (named : ∀ r ∈ resources.keys ++ specials.keys, '.' ∉ r.toList)
    (ids : String → Option Int) (labels : Option (OrderedMap String)) (selected : List Int) :
    let c := compile resources specials
    let gs := groups labels selected (c.names.map fun n => ⟨ids n, n⟩)
    (gs.map (·.key)).Perm c.groups.keys ∧ (gs.map (·.key)).Nodup ∧
    ∀ g ∈ gs, ∃ names, c.groups.get? g.key = some names ∧ (g.items.map (·.name)).Perm names ∧
      ∀ e ∈ g.items, e.id = ids e.name := by
  intro c gs
  have keys : gs.map (·.key) = groupKeys (identified ids c.names) :=
    keys_groups labels selected (identified ids c.names)
  have resourced := groupKeys_identified_perm plain named ids
  rw [keys]
  refine ⟨resourced, nodup_groupKeys _, fun g hg => ?_⟩
  obtain ⟨known, made⟩ := (mem_groups_iff labels selected (identified ids c.names)).mp hg
  have given := Catalog.mem_keys_compile_iff.mp (resourced.mem_iff.mp known)
  refine ⟨_, (Catalog.get?_compile resources specials g.key).trans (if_neg given), ?_, fun e he => ?_⟩
  · rw [made]
    exact names_group_identified_perm plain named labels selected ids g.key
  · rw [made] at he
    exact id_of_mem_group_identified he

/-- A resource with a space, one whose special item is an action too, and one without items. -/
theorem groups_are_resources_posts :
    let resources := ItemTable.addAll ∅
      [("posts", ["read", "pin"]), ("old posts", ["read"]), ("ghosts", [])]
    let specials := ItemTable.addAll ∅ [("posts", ["pin", "ban"]), ("tags", ["merge"])]
    let c := compile resources specials
    let gs := groups none [2] (c.names.map fun n => ⟨some n.length, n⟩)
    (gs.map (·.key)).Perm ["posts", "old posts", "tags"] ∧
      ∀ g ∈ gs, g.key = "posts" →
        (g.items.map (·.name)).Perm ["read posts", "pin posts", "ban posts"] := by
  intro resources specials c gs
  obtain ⟨keys, -, each⟩ := groups_are_resources resources specials (by decide) (by decide)
    (fun n => some n.length) none [2]
  have order : c.groups.keys = ["posts", "old posts", "tags"] := by decide +kernel
  refine ⟨order ▸ keys, fun g hg own => ?_⟩
  obtain ⟨names, found, perm, -⟩ := each g hg
  have posts : c.groups.get? "posts" = some ["read posts", "pin posts", "ban posts"] := by
    decide +kernel
  rw [own, posts] at found
  cases found
  exact perm

end Display

end Entitlements
