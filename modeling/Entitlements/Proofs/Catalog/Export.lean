import Entitlements.Proofs.Definition
import Entitlements.Proofs.Grant.WrittenBack
import Entitlements.Proofs.Json.RoundTrip

set_option autoImplicit false

/-!
Exported catalogs. The text of a catalog reads as special items, and these compile to the catalog
again: its names have a space, so none is composed a second time.
-/

namespace Entitlements

namespace Definition

/-- Lists of names, each under its resource. -/
def ofGroups (groups : List (String × List String)) : Definition :=
  .mapping (groups.map fun g => (.name g.1, .ofNames g.2))

theorem ofJson_ofStrings (names : List String) :
    ofJson (.ofStrings names) = .ok (.ofNames names) := by
  have read : ∀ v ∈ names.map Json.string, ofJson v = .ok (authored v) := by
    intro v hv
    obtain ⟨name, -, rfl⟩ := List.mem_map.mp hv
    rfl
  rw [Json.ofStrings, ofJson_array read, List.map_map]
  rfl

/-- A key that is no index stays a name. -/
theorem ofJson_groups {groups : List (String × List String)}
    (named : ∀ g ∈ groups, Key.index? g.1 = none) :
    ofJson (.object (groups.map fun g => (g.1, .ofStrings g.2))) = .ok (.ofGroups groups) := by
  have value (names : List String) : authored (.ofStrings names) = .ofNames names :=
    authored_of_ok (ofJson_ofStrings names)
  have read : ∀ m ∈ groups.map fun g => (g.1, Json.ofStrings g.2),
      ofJson m.2 = .ok (authored m.2) := by
    intro m hm
    obtain ⟨g, -, rfl⟩ := List.mem_map.mp hm
    rw [value, ofJson_ofStrings]
  have members : (groups.map fun g => (Key.ofString g.1, authored (.ofStrings g.2))) =
      groups.map fun g => (.name g.1, .ofNames g.2) := by
    apply List.map_congr_left
    intro g hg
    rw [value, Key.ofString, named g hg]
  rw [ofJson_object read, List.map_map, ofGroups, ← members]
  rfl

end Definition

namespace ItemTable

theorem contributions_ofGroups (groups : List (String × List String)) :
    (Definition.ofGroups groups).entries.flatMap specialContributions = groups := by
  have single (g : String × List String) :
      specialContributions (.name g.1, .ofNames g.2) = [g] := by
    rw [specialContributions, Definition.tokens_ofNames]
  rw [Definition.ofGroups, Definition.entries, List.flatMap_map]
  simp only [single, List.flatMap_singleton']

/-- A resource with its items as a table keeps them. -/
structure Settled (e : String × List String) : Prop where
  named : Text.Trimmed e.1
  trimmed : ∀ x ∈ e.2, Text.Trimmed x
  distinct : e.2.Nodup

theorem toList_add_settled {t : ItemTable} {e : String × List String} (settled : Settled e)
    (new : e.1 ∉ t.keys) : (t.add e.1 e.2).toList = t.toList ++ [e] := by
  have items : addItems [] e.2 = e.2 := by
    rw [addItems_eq List.nodup_nil, List.nil_append, Text.trimNames_of_trimmed settled.trimmed,
      eraseDups_of_nodup settled.distinct]
  unfold add
  rw [settled.named.trim, if_neg settled.named.ne_empty, OrderedMap.toList_alter,
    Pairs.alter_of_notMem new, Option.getD_none, items]

/-- Settled groups of different resources are a table already. -/
theorem ofSpecials_ofGroups {t : ItemTable} (settled : ∀ e ∈ t.toList, Settled e) :
    ofSpecials (.ofGroups t.toList) = t := by
  apply OrderedMap.ext
  rw [ofSpecials_eq, contributions_ofGroups]
  have append (u : ItemTable) (e : String × List String) (he : e ∈ t.toList) (new : e.1 ∉ u.keys) :
      (u.add e.1 e.2).toList = u.toList ++ [e] := toList_add_settled (settled e he) new
  exact OrderedMap.toList_foldl_of_append append t.nodup

end ItemTable

namespace Catalog

/-- The index has the names with the last one first. -/
def Indexed (c : Catalog) : Prop := c.index = c.names.reverse

theorem Indexed.record {c : Catalog} (h : c.Indexed) (name : String) : (c.record name).Indexed := by
  unfold Catalog.record
  split
  · exact h
  · rw [Indexed, List.reverse_append, h]
    rfl

theorem Indexed.extend {c : Catalog} (h : c.Indexed) (resource : String) (names : List String) :
    (c.extend resource names).Indexed := by
  by_cases empty : names = []
  · rw [empty, extend_nil]
    exact h
  · have recorded : (names.eraseDups.foldl Catalog.record c).Indexed :=
      List.foldlRecOn _ _ h fun c h name _ => h.record name
    rw [extend_of_ne_nil c resource empty]
    exact recorded

theorem indexed_compile (resources specials : ItemTable) :
    (compile resources specials).Indexed := by
  have first : (resources.toList.foldl (addResource specials) ∅).Indexed :=
    List.foldlRecOn _ _ rfl fun c h e _ => h.extend e.1 _
  refine List.foldlRecOn _ addSpecials first fun c h e _ => ?_
  unfold addSpecials
  split
  · exact h
  · exact h.extend e.1 _

theorem compile_eq_of_groups {resources resources' specials specials' : ItemTable}
    (same : (compile resources specials).groups = (compile resources' specials').groups) :
    compile resources specials = compile resources' specials' := by
  have names : (compile resources specials).names = (compile resources' specials').names := by
    rw [(consistent_compile resources specials).names_eq,
      (consistent_compile resources' specials').names_eq, same]
  have index : (compile resources specials).index = (compile resources' specials').index := by
    rw [indexed_compile, indexed_compile, names]
  generalize compile resources specials = c at same names index
  generalize compile resources' specials' = c' at same names index
  cases c
  cases c'
  subst same names index
  rfl

theorem items_groups (resources specials : ItemTable) (r : String) :
    ItemTable.items (compile resources specials).groups r =
      (authored resources specials r).eraseDups := by
  rw [ItemTable.items, get?_compile]
  split
  · rename_i empty
    rw [empty]
    rfl
  · rfl

theorem nodup_items_groups (resources specials : ItemTable) (r : String) :
    (ItemTable.items (compile resources specials).groups r).Nodup := by
  rw [items_groups]
  exact nodup_eraseDups _

/-- Full names are taken over as they are. -/
theorem groups_compile_specials {groups : ItemTable}
    (full : ∀ r, ∀ n ∈ groups.items r, FullName n) (distinct : ∀ r, (groups.items r).Nodup)
    (given : ∀ r ∈ groups.keys, groups.items r ≠ []) : (compile ∅ groups).groups = groups := by
  have own (r : String) : authored ∅ groups r = groups.items r := by
    have composed : ∀ n ∈ groups.items r, compose n r = id n := fun n hn =>
      compose_of_space (full r n hn).space
    rw [authored, List.map_congr_left composed, List.map_id]
    rfl
  apply ItemTable.eq_of_items
  · rw [keys_compile, OrderedMap.keys_empty, List.filter_nil, List.nil_append,
      List.filter_eq_self]
    intro r hr
    simpa [own] using given r hr
  · intro r
    rw [items_groups, own, eraseDups_of_nodup (distinct r)]

section Groups
variable {resources specials : ItemTable} {rs ss : List (String × List String)}
  (builtR : resources.Built rs) (builtS : specials.Built ss)
include builtR builtS

theorem fullName_of_mem_group {r n : String}
    (h : n ∈ ItemTable.items (compile resources specials).groups r) : FullName n := by
  rw [items_groups, List.mem_eraseDups] at h
  exact fullName_of_mem_names builtR builtS (mem_names_compile_iff.mpr ⟨r, h⟩)

theorem trimmed_of_mem_keys_groups {r : String}
    (h : r ∈ (compile resources specials).groups.keys) : Text.Trimmed r := by
  rw [keys_compile, List.mem_append, List.mem_filter, List.mem_filter] at h
  rcases h with ⟨hr, -⟩ | ⟨hr, -⟩
  · exact builtR.trimmed_of_mem_keys hr
  · exact builtS.trimmed_of_mem_keys hr

theorem settled_of_mem_groups {e : String × List String}
    (h : e ∈ (compile resources specials).groups.toList) : ItemTable.Settled e := by
  have items : ItemTable.items (compile resources specials).groups e.1 = e.2 :=
    ItemTable.items_of_mem h
  constructor
  · exact trimmed_of_mem_keys_groups builtR builtS (List.mem_map_of_mem h)
  · intro n hn
    rw [← items] at hn
    exact (fullName_of_mem_group builtR builtS hn).trimmed
  · rw [← items]
    exact nodup_items_groups resources specials e.1

end Groups

theorem items_groups_ne_nil {resources specials : ItemTable} {r : String}
    (h : r ∈ (compile resources specials).groups.keys) :
    ItemTable.items (compile resources specials).groups r ≠ [] := by
  rw [items_groups, Ne, eraseDups_eq_nil]
  rw [keys_compile] at h
  simp only [List.mem_append, List.mem_filter, decide_eq_true_eq] at h
  rcases h with ⟨-, given⟩ | ⟨-, -, given⟩ <;> exact given

theorem plain_toJson (c : Catalog) : Json.Plain Json.maxLevels c.toJson := by
  apply Json.Plain.object
  · rw [List.map_map]
    exact c.groups.nodup
  · intro m hm
    obtain ⟨g, -, rfl⟩ := List.mem_map.mp hm
    exact Json.plain_ofStrings _ g.2

/-- The text of a catalog, read as special items without any resources, compiles to the catalog:
its groups, its names and its index. A resource spelled as an index would read as no resource. -/
theorem export_is_fixed {resources specials : ItemTable} {rs ss : List (String × List String)}
    (builtR : resources.Built rs) (builtS : specials.Built ss)
    (named : ∀ r ∈ (compile resources specials).groups.keys, Definition.Key.index? r = none) :
    let c := compile resources specials
    ∃ v d, Json.read? c.toJson.render = some v ∧ Definition.ofJson v = .ok d ∧
      compile ∅ (.ofSpecials d) = c := by
  intro c
  refine ⟨c.toJson, .ofGroups c.groups.toList, Json.read?_render (plain_toJson c), ?_, ?_⟩
  · exact Definition.ofJson_groups fun g hg => named g.1 (List.mem_map_of_mem hg)
  · have table : ItemTable.ofSpecials (.ofGroups c.groups.toList) = c.groups :=
      ItemTable.ofSpecials_ofGroups fun e => settled_of_mem_groups builtR builtS
    have full (r n : String) (hn : n ∈ ItemTable.items c.groups r) : FullName n :=
      fullName_of_mem_group builtR builtS hn
    rw [table]
    apply compile_eq_of_groups
    exact groups_compile_specials full (nodup_items_groups resources specials)
      fun r => items_groups_ne_nil

/-- A resource with a space in its name, a full name on two resources, and a resource that has
special items alone. -/
theorem export_is_fixed_users :
    let resources := ItemTable.ofResources (.mapping [(.name "old posts", .scalar "pin")])
    let specials := ItemTable.ofSpecials (.mapping
      [(.name " users", .list [.scalar "assign roles", .scalar "ban "]),
       (.name "old posts", .list [.scalar "assign roles", .scalar "pin"])])
    let c := compile resources specials
    c.toJson.render = "\x7b\"old posts\":[\"pin old posts\",\"assign roles\"]," ++
        "\"users\":[\"assign roles\",\"ban users\"]\x7d" ∧
      c.names = ["pin old posts", "assign roles", "ban users"] ∧
      ∃ v d, Json.read? c.toJson.render = some v ∧ Definition.ofJson v = .ok d ∧
        compile ∅ (.ofSpecials d) = c := by
  intro resources specials c
  have named : ∀ r ∈ c.groups.keys, Definition.Key.index? r = none := by decide +kernel
  exact ⟨by decide +kernel, by decide +kernel,
    export_is_fixed (.resources _) (.specials _) named⟩

end Catalog

end Entitlements
