import Entitlements.Catalog
import Mathlib.Data.List.Nodup

set_option autoImplicit false

/-!
What a compiled catalog holds. The two loops of the compiler come to one: every resource, those of
the first table before the others, is visited and gets the names authored for it, once. Groups,
names and index then say the same.
-/

namespace Entitlements.Catalog

/-- The names authored for a resource, actions before special items. -/
def authored (resources specials : ItemTable) (resource : String) : List String :=
  (resources.items resource).map (permissionName · resource) ++
    (specials.items resource).map (compose · resource)

/-- The names are those of the groups, and the index knows just them. -/
structure Consistent (c : Catalog) : Prop where
  names_eq : c.names = c.groups.values.flatten.eraseDups
  mem_index : ∀ n, n ∈ c.index ↔ n ∈ c.names

@[simp] theorem groups_empty : (∅ : Catalog).groups = ∅ := rfl

theorem consistent_empty : Consistent ∅ := ⟨rfl, fun _ => Iff.rfl⟩

namespace Consistent
variable {c : Catalog}

theorem nodup_names (h : c.Consistent) : c.names.Nodup := h.names_eq ▸ nodup_eraseDups _

theorem contains_iff (h : c.Consistent) (n : String) : c.contains n = true ↔ n ∈ c.names := by
  rw [contains, List.contains_iff_mem, h.mem_index]

theorem mem_names_iff (h : c.Consistent) (n : String) :
    n ∈ c.names ↔ ∃ r group, c.groups.get? r = some group ∧ n ∈ group := by
  rw [h.names_eq, List.mem_eraseDups, List.mem_flatten]
  simp only [OrderedMap.get?_eq_some_iff, OrderedMap.values, List.mem_map]
  constructor
  · rintro ⟨_, ⟨⟨r, group⟩, he, rfl⟩, hn⟩
    exact ⟨r, group, he, hn⟩
  · rintro ⟨r, group, he, hn⟩
    exact ⟨group, ⟨_, he, rfl⟩, hn⟩

end Consistent

@[simp] theorem groups_record (c : Catalog) (name : String) :
    (c.record name).groups = c.groups := by
  unfold record
  split <;> rfl

@[simp] theorem groups_foldl_record (c : Catalog) (names : List String) :
    (names.foldl record c).groups = c.groups := by
  induction names generalizing c with
  | nil => rfl
  | cons name names ih => rw [List.foldl_cons, ih, groups_record]

/-- Recorded names come to the end, each once, and into the index. -/
theorem names_foldl_record {c : Catalog} (mem_index : ∀ n, n ∈ c.index ↔ n ∈ c.names)
    (nodup : c.names.Nodup) (names : List String) :
    (names.foldl record c).names = (c.names ++ names).eraseDups ∧
      ∀ n, n ∈ (names.foldl record c).index ↔ n ∈ (names.foldl record c).names := by
  induction names generalizing c with
  | nil => exact ⟨by simp [eraseDups_of_nodup nodup], mem_index⟩
  | cons name names ih =>
    rw [List.foldl_cons]
    by_cases old : name ∈ c.index
    · have same : c.record name = c := if_pos old
      rw [same, eraseDups_append_cons, if_pos ((mem_index name).mp old)]
      exact ih mem_index nodup
    · have step : c.record name =
          { c with names := c.names ++ [name], index := name :: c.index } := if_neg old
      have new : name ∉ c.names := fun h => old ((mem_index name).mpr h)
      rw [step, eraseDups_append_cons, if_neg new]
      apply ih
      · intro n
        simp [mem_index, or_comm]
      · exact nodup_concat nodup new

@[simp] theorem extend_nil (c : Catalog) (resource : String) : c.extend resource [] = c := rfl

theorem extend_of_ne_nil (c : Catalog) (resource : String) {names : List String}
    (given : names ≠ []) :
    c.extend resource names =
      { names.eraseDups.foldl record c with
        groups := c.groups.insert resource names.eraseDups } := by
  simp only [extend, NameSet.toList_ofList, if_neg (eraseDups_eq_nil.not.mpr given),
    groups_foldl_record]

theorem mem_keys_extend {c : Catalog} {resource r : String} {names : List String}
    (h : r ∈ (c.extend resource names).groups.keys) : r ∈ c.groups.keys ∨ r = resource := by
  by_cases empty : names = []
  · subst empty
    exact .inl h
  · rw [extend_of_ne_nil c resource empty] at h
    exact (Pairs.mem_keys_alter.mp h).symm

theorem keys_subset_extend (c : Catalog) (resource : String) (names : List String) :
    c.groups.keys ⊆ (c.extend resource names).groups.keys := by
  intro r h
  by_cases empty : names = []
  · subst empty
    exact h
  · rw [extend_of_ne_nil c resource empty]
    exact Pairs.mem_keys_alter.mpr (.inr h)

/-- A new group comes last, and the views still agree. -/
theorem extend_new {c : Catalog} (h : c.Consistent) {resource : String}
    (new : resource ∉ c.groups.keys) {names : List String} (given : names ≠ []) :
    (c.extend resource names).Consistent ∧
      (c.extend resource names).groups.toList =
        c.groups.toList ++ [(resource, names.eraseDups)] := by
  obtain ⟨all, index⟩ := names_foldl_record h.mem_index h.nodup_names names.eraseDups
  have toList := OrderedMap.toList_insert_of_notMem new names.eraseDups
  rw [extend_of_ne_nil c resource given]
  refine ⟨⟨?_, index⟩, toList⟩
  rw [all, h.names_eq, eraseDups_append_eraseDups, OrderedMap.values, OrderedMap.values, toList]
  simp

section Loops
variable (resources specials : ItemTable)

/-- A resource that has no group yet gets all that was authored for it. -/
def visit (c : Catalog) (resource : String) : Catalog :=
  if resource ∈ c.groups.keys then c else c.extend resource (authored resources specials resource)

variable {resources specials}

theorem keys_subset_visit (c : Catalog) (resource : String) :
    c.groups.keys ⊆ (c.visit resources specials resource).groups.keys := by
  unfold visit
  split
  · exact List.Subset.refl _
  · exact keys_subset_extend ..

/-- The groups that visits add: one for each resource that has names and no group yet. -/
theorem foldl_visit {c : Catalog} (h : c.Consistent) (rs : List String) :
    (rs.foldl (visit resources specials) c).Consistent ∧
      (rs.foldl (visit resources specials) c).groups.toList = c.groups.toList ++
        ((rs.filter fun r => r ∉ c.groups.keys ∧ authored resources specials r ≠ []).eraseDups.map
          fun r => (r, (authored resources specials r).eraseDups)) := by
  induction rs generalizing c with
  | nil => exact ⟨h, by simp⟩
  | cons r rs ih =>
    rw [List.foldl_cons]
    by_cases old : r ∈ c.groups.keys
    · have same : c.visit resources specials r = c := if_pos old
      simpa [same, old] using ih h
    have step : c.visit resources specials r = c.extend r (authored resources specials r) :=
      if_neg old
    by_cases empty : authored resources specials r = []
    · rw [step, empty, extend_nil]
      simpa [empty] using ih h
    · obtain ⟨consistent, toList⟩ := extend_new h old empty
      have keys : (c.extend r (authored resources specials r)).groups.keys =
          c.groups.keys ++ [r] := by simp [OrderedMap.keys, toList]
      obtain ⟨ih₁, ih₂⟩ := ih consistent
      rw [step]
      refine ⟨ih₁, ?_⟩
      -- The new key takes later visits of `r` out, as dropping repetitions does.
      rw [ih₂, toList, keys, List.filter_cons_of_pos (by simp [old, empty]), List.eraseDups_cons,
        List.filter_filter, List.append_assoc]
      congr 4
      grind

theorem foldl_visit_empty (rs : List String) :
    (rs.foldl (visit resources specials) ∅).groups.toList =
      (rs.filter fun r => authored resources specials r ≠ []).eraseDups.map
        fun r => (r, (authored resources specials r).eraseDups) := by
  simpa using (foldl_visit consistent_empty rs).2

theorem keys_foldl_visit_empty (rs : List String) :
    (rs.foldl (visit resources specials) ∅).groups.keys =
      (rs.filter fun r => authored resources specials r ≠ []).eraseDups := by
  simp [OrderedMap.keys, foldl_visit_empty, Function.comp_def]

/-- The first loop visits the resources of the first table. -/
theorem foldl_addResource {c : Catalog} {rs : List String} (nodup : rs.Nodup)
    (new : ∀ r ∈ rs, r ∉ c.groups.keys) :
    (rs.map fun r => (r, resources.items r)).foldl (addResource specials) c =
      rs.foldl (visit resources specials) c := by
  induction rs generalizing c with
  | nil => rfl
  | cons r rs ih =>
    obtain ⟨fresh, nodup⟩ := List.nodup_cons.mp nodup
    have step : c.visit resources specials r =
        addResource specials c (r, resources.items r) := if_neg (new r List.mem_cons_self)
    rw [List.map_cons, List.foldl_cons, List.foldl_cons, ← step]
    apply ih nodup
    intro s hs h
    rw [step] at h
    rcases mem_keys_extend h with old | rfl
    · exact new s (List.mem_cons_of_mem r hs) old
    · exact fresh hs

/-- After that the second loop visits those of the second table: of resources in both tables it
finds the group made already, or nothing to make one of. -/
theorem foldl_addSpecials {c : Catalog} {rs : List String}
    (done : ∀ r ∈ resources.keys, r ∈ c.groups.keys ∨ authored resources specials r = []) :
    (rs.map fun r => (r, specials.items r)).foldl addSpecials c =
      rs.foldl (visit resources specials) c := by
  induction rs generalizing c with
  | nil => rfl
  | cons r rs ih =>
    have step : c.visit resources specials r = addSpecials c (r, specials.items r) := by
      unfold visit addSpecials
      by_cases old : r ∈ c.groups.keys
      · simp [old, OrderedMap.contains_iff]
      · simp only [old, OrderedMap.contains_iff, if_false]
        by_cases plain : r ∈ resources.keys
        · have empty := (done r plain).resolve_left old
          rw [empty, (List.append_eq_nil_iff.mp empty).2]
        · rw [authored, ItemTable.items_of_notMem plain, List.map_nil, List.nil_append]
    rw [List.map_cons, List.foldl_cons, List.foldl_cons, ← step]
    exact ih fun s hs => (done s hs).imp_left (keys_subset_visit c r ·)

end Loops

theorem compile_eq_foldl_visit (resources specials : ItemTable) :
    compile resources specials =
      (resources.keys ++ specials.keys).foldl (visit resources specials) ∅ := by
  have new : ∀ r ∈ resources.keys, r ∉ (∅ : Catalog).groups.keys := by simp
  rw [compile, resources.toList_eq_map_items, specials.toList_eq_map_items,
    foldl_addResource resources.nodup_keys new, List.foldl_append]
  apply foldl_addSpecials
  intro r hr
  by_cases empty : authored resources specials r = []
  · exact .inr empty
  · left
    rw [keys_foldl_visit_empty]
    simpa using ⟨hr, empty⟩

/-- Resources of the first table come first, then those that have special items only. -/
theorem keys_compile (resources specials : ItemTable) :
    (compile resources specials).groups.keys =
      (resources.keys.filter fun r => authored resources specials r ≠ []) ++
        specials.keys.filter fun r => r ∉ resources.keys ∧ authored resources specials r ≠ [] := by
  rw [compile_eq_foldl_visit, keys_foldl_visit_empty, List.filter_append, List.eraseDups_append,
    eraseDups_of_nodup (resources.nodup_keys.filter _), List.removeAll,
    eraseDups_of_nodup ((specials.nodup_keys.filter _).filter _), List.filter_filter]
  congr 1
  apply List.filter_congr
  intro r _
  by_cases empty : authored resources specials r = [] <;> simp [empty, and_comm]

theorem consistent_compile (resources specials : ItemTable) :
    (compile resources specials).Consistent :=
  compile_eq_foldl_visit resources specials ▸ (foldl_visit consistent_empty _).1

theorem mem_keys_of_authored {resources specials : ItemTable} {r : String}
    (given : authored resources specials r ≠ []) : r ∈ resources.keys ++ specials.keys := by
  by_contra absent
  simp only [List.mem_append, not_or] at absent
  apply given
  rw [authored, ItemTable.items_of_notMem absent.1, ItemTable.items_of_notMem absent.2]
  rfl

theorem get?_compile (resources specials : ItemTable) (r : String) :
    (compile resources specials).groups.get? r =
      if authored resources specials r = [] then none
      else some (authored resources specials r).eraseDups := by
  rw [compile_eq_foldl_visit]
  split
  · rename_i empty
    rw [OrderedMap.get?_eq_none_iff, keys_foldl_visit_empty]
    simp [empty]
  · rename_i given
    have visited := mem_keys_of_authored given
    rw [OrderedMap.get?_eq_some_iff, foldl_visit_empty]
    exact List.mem_map.mpr ⟨r, by simp_all, rfl⟩

theorem mem_keys_compile_iff {resources specials : ItemTable} {r : String} :
    r ∈ (compile resources specials).groups.keys ↔ authored resources specials r ≠ [] := by
  rw [← not_iff_not, ← OrderedMap.get?_eq_none_iff, get?_compile]
  simp

/-- A name is authored for a resource as an action or as a special item. -/
theorem mem_authored_iff {resources specials : ItemTable} {r n : String} :
    n ∈ authored resources specials r ↔
      (∃ a ∈ resources.items r, n = permissionName a r) ∨
        ∃ i ∈ specials.items r, n = compose i r := by
  simp [authored, eq_comm]

theorem mem_names_compile_iff {resources specials : ItemTable} {n : String} :
    n ∈ (compile resources specials).names ↔ ∃ r, n ∈ authored resources specials r := by
  rw [(consistent_compile resources specials).mem_names_iff]
  simp only [get?_compile]
  constructor
  · rintro ⟨r, group, h, hn⟩
    split at h
    · cases h
    · cases h
      exact ⟨r, List.mem_eraseDups.mp hn⟩
  · rintro ⟨r, hn⟩
    exact ⟨r, _, if_neg (List.ne_nil_of_mem hn), List.mem_eraseDups.mpr hn⟩

/-- Groups, names and index of a compiled catalog are what was authored, each name once, resources
of the first table before those that have special items only. -/
theorem compile_eq_authored (resources specials : ItemTable) :
    let c := compile resources specials
    let names := authored resources specials
    (∀ r, c.groups.get? r = if names r = [] then none else some (names r).eraseDups) ∧
    c.groups.keys = (resources.keys.filter fun r => names r ≠ []) ++
      (specials.keys.filter fun r => r ∉ resources.keys ∧ names r ≠ []) ∧
    c.names = c.groups.values.flatten.eraseDups ∧ c.names.Nodup ∧
    ∀ q, (c.contains q = true ↔ q ∈ c.names) ∧
      (c.contains q = true ↔ ∃ r group, c.groups.get? r = some group ∧ q ∈ group) ∧
      (c.contains q = true ↔ ∃ r, (∃ a ∈ resources.items r, q = permissionName a r) ∨
        ∃ i ∈ specials.items r, q = compose i r) := by
  intro c names
  have consistent := consistent_compile resources specials
  refine ⟨get?_compile resources specials, keys_compile resources specials, consistent.names_eq,
    consistent.nodup_names, fun q => ?_⟩
  have known := consistent.contains_iff q
  refine ⟨known, known.trans (consistent.mem_names_iff q), known.trans ?_⟩
  simp only [mem_names_compile_iff, mem_authored_iff]

end Entitlements.Catalog
