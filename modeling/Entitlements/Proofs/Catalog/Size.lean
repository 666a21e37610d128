import Entitlements.Proofs.Grant.WrittenBack
import Mathlib.Algebra.BigOperators.Group.Finset.Basic

set_option autoImplicit false

/-!
How many permissions a catalog has. The name made of an item without a space tells the item and its
resource, so a catalog of such items has one permission for each item of each resource.
-/

namespace Entitlements

/-- The action ends at the first space, whatever spaces the resource has. -/
theorem cutAt_permissionName {action : String} (plain : ' ' ∉ action.toList) (resource : String) :
    Text.cutAt ' ' (permissionName action resource).toList =
      some (action.toList, resource.toList) := by
  have text : (permissionName action resource).toList =
      action.toList ++ ' ' :: resource.toList := by simp [permissionName]
  rw [text, Text.cutAt_append plain]

theorem permissionName_inj {a b r s : String} (ha : ' ' ∉ a.toList) (hb : ' ' ∉ b.toList)
    (same : permissionName a r = permissionName b s) : a = b ∧ r = s := by
  have parts := cutAt_permissionName ha r
  rw [same, cutAt_permissionName hb s] at parts
  obtain ⟨action, resource⟩ := Prod.mk.inj (Option.some.inj parts)
  exact ⟨(String.toList_inj.mp action).symm, (String.toList_inj.mp resource).symm⟩

namespace ItemTable

theorem exists_items_of_mem_values {t : ItemTable} {items : List String} (h : items ∈ t.values) :
    ∃ r, t.items r = items := by
  obtain ⟨e, he, rfl⟩ := List.mem_map.mp h
  exact ⟨e.1, items_of_mem he⟩

theorem items_mem_values {t : ItemTable} {r x : String} (h : x ∈ t.items r) :
    t.items r ∈ t.values := by
  unfold items at h ⊢
  cases found : t.get? r with
  | none => simp [found] at h
  | some own => exact List.mem_map_of_mem (OrderedMap.get?_eq_some_iff.mp found)

theorem contributions_ofNames (names : List String) :
    (Definition.ofNames names).entries.flatMap resourceContributions =
      names.map (·, defaultActions) := by
  rw [Definition.ofNames, Definition.entries]
  generalize 0 = i
  induction names generalizing i with
  | nil => rfl
  | cons n ns ih =>
    have single : resourceContributions (.position i, .scalar n) = [(n, defaultActions)] := rfl
    rw [List.map_cons, Definition.itemEntries, List.flatMap_cons, single, ih, List.map_cons,
      List.singleton_append]
    simp

/-- A list of names gives each of them the default actions in turn. -/
theorem ofResources_ofNames (names : List String) :
    ofResources (.ofNames names) = names.foldl addCrud ∅ := by
  rw [ofResources_eq, contributions_ofNames, addAll, List.foldl_map]
  rfl

theorem built_ofNames (names : List String) :
    Built (ofResources (.ofNames names)) (names.map (·, defaultActions)) := by
  rw [← contributions_ofNames]
  exact .resources (.ofNames names)

theorem toFinset_keys_ofNames (names : List String) :
    (ofResources (.ofNames names)).keys.toFinset = (Text.trimNames names).toFinset := by
  ext r
  rw [(built_ofNames names).keys_eq]
  simp

/-- Each name that is listed has the default actions, however often it is listed. -/
theorem mem_items_ofNames {names : List String} {r x : String} :
    x ∈ (ofResources (.ofNames names)).items r ↔
      r ∈ Text.trimNames names ∧ x ∈ defaultActions := by
  have trimmed : ∀ a ∈ defaultActions, Text.trim a = a ∧ a ≠ "" := by decide
  rw [(built_ofNames names).mem_items_iff, Text.mem_trimNames]
  constructor
  · rintro ⟨named, -, c, hc, own, a, ha, rfl⟩
    obtain ⟨n, hn, rfl⟩ := List.mem_map.mp hc
    exact ⟨⟨named, n, hn, own⟩, (trimmed a ha).1.symm ▸ ha⟩
  · rintro ⟨⟨named, n, hn, own⟩, hx⟩
    exact ⟨named, (trimmed x hx).2, _, List.mem_map_of_mem hn, own, x, hx, (trimmed x hx).1⟩

end ItemTable

namespace Catalog

/-- The distinct items of a resource, actions and special items together. -/
def itemsOf (resources specials : ItemTable) (r : String) : Finset String :=
  (resources.items r ++ specials.items r).toFinset

theorem exists_values_of_mem_itemsOf {resources specials : ItemTable} {r x : String}
    (h : x ∈ itemsOf resources specials r) :
    ∃ items ∈ resources.values ++ specials.values, x ∈ items := by
  rcases List.mem_append.mp (List.mem_toFinset.mp h) with hx | hx
  · exact ⟨_, List.mem_append_left _ (ItemTable.items_mem_values hx), hx⟩
  · exact ⟨_, List.mem_append_right _ (ItemTable.items_mem_values hx), hx⟩

section Plain
variable {resources specials : ItemTable}
  (plain : ∀ items ∈ resources.values ++ specials.values, ∀ x ∈ items, ' ' ∉ x.toList)
include plain

theorem plain_of_mem_itemsOf {r x : String} (h : x ∈ itemsOf resources specials r) :
    ' ' ∉ x.toList := by
  obtain ⟨items, known, hx⟩ := exists_values_of_mem_itemsOf h
  exact plain items known x hx

/-- Special items are composed as actions are. -/
theorem mem_authored_of_plain {r n : String} :
    n ∈ authored resources specials r ↔
      ∃ x ∈ itemsOf resources specials r, permissionName x r = n := by
  rw [mem_authored_iff]
  simp only [itemsOf, List.mem_toFinset, List.mem_append]
  constructor
  · rintro (⟨a, ha, rfl⟩ | ⟨i, hi, rfl⟩)
    · exact ⟨a, .inl ha, rfl⟩
    · have space := plain_of_mem_itemsOf plain (List.mem_toFinset.mpr (List.mem_append_right _ hi))
      exact ⟨i, .inr hi, (compose_of_plain space).symm⟩
  · rintro ⟨x, hx | hx, rfl⟩
    · exact .inl ⟨x, hx, rfl⟩
    · have space := plain_of_mem_itemsOf plain (List.mem_toFinset.mpr (List.mem_append_right _ hx))
      exact .inr ⟨x, hx, (compose_of_plain space).symm⟩

theorem toFinset_names :
    (compile resources specials).names.toFinset =
      (resources.keys ++ specials.keys).toFinset.biUnion fun r =>
        (itemsOf resources specials r).image (permissionName · r) := by
  ext n
  simp only [List.mem_toFinset, mem_names_compile_iff, Finset.mem_biUnion, Finset.mem_image,
    ← mem_authored_of_plain plain]
  constructor
  · exact fun ⟨r, hn⟩ => ⟨r, mem_keys_of_authored (List.ne_nil_of_mem hn), hn⟩
  · exact fun ⟨r, _, hn⟩ => ⟨r, hn⟩

/-- No two resources share a name, and no two items of one resource do. -/
theorem length_names :
    (compile resources specials).names.length =
      ∑ r ∈ (resources.keys ++ specials.keys).toFinset, (itemsOf resources specials r).card := by
  have nodup := (consistent_compile resources specials).nodup_names
  rw [← List.toFinset_card_of_nodup nodup, toFinset_names plain, Finset.card_biUnion]
  · apply Finset.sum_congr rfl
    intro r _
    apply Finset.card_image_of_injOn
    intro x hx y hy same
    exact (permissionName_inj (plain_of_mem_itemsOf plain hx) (plain_of_mem_itemsOf plain hy) same).1
  · intro r _ s _ apart
    rw [Function.onFun, Finset.disjoint_left]
    intro n hr hs
    obtain ⟨x, hx, rfl⟩ := Finset.mem_image.mp hr
    obtain ⟨y, hy, same⟩ := Finset.mem_image.mp hs
    exact apart
      (permissionName_inj (plain_of_mem_itemsOf plain hy) (plain_of_mem_itemsOf plain hx) same).2.symm

end Plain

theorem plain_ofNames (names : List String) :
    ∀ items ∈ (ItemTable.ofResources (.ofNames names)).values ++ (∅ : ItemTable).values,
      ∀ x ∈ items, ' ' ∉ x.toList := by
  have default : ∀ a ∈ defaultActions, ' ' ∉ a.toList := by decide
  intro items h x hx
  rcases List.mem_append.mp h with h | h
  · obtain ⟨r, rfl⟩ := ItemTable.exists_items_of_mem_values h
    exact default x (ItemTable.mem_items_ofNames.mp hx).2
  · exact absurd h List.not_mem_nil

/-- A list of bare names has four permissions for each name in it, counted without outer blanks,
repetitions and blank names. -/
theorem length_names_ofNames (names : List String) :
    (compile (.ofResources (.ofNames names)) ∅).names.length =
      4 * (Text.trimNames names).toFinset.card := by
  have keys : ((ItemTable.ofResources (.ofNames names)).keys ++
      (∅ : ItemTable).keys).toFinset = (Text.trimNames names).toFinset := by
    rw [OrderedMap.keys_empty, List.append_nil, ItemTable.toFinset_keys_ofNames]
  have four : ∀ r ∈ (Text.trimNames names).toFinset,
      (itemsOf (.ofResources (.ofNames names)) ∅ r).card = 4 := by
    intro r hr
    have items : itemsOf (.ofResources (.ofNames names)) ∅ r = defaultActions.toFinset := by
      ext x
      have own : (∅ : ItemTable).items r = [] := rfl
      rw [itemsOf, own, List.append_nil, List.mem_toFinset, ItemTable.mem_items_ofNames,
        List.mem_toFinset]
      exact and_iff_right (List.mem_toFinset.mp hr)
    rw [items]
    rfl
  rw [length_names (plain_ofNames names), keys, Finset.sum_const_nat four, Nat.mul_comm]

/-- When no item has a space, a catalog has as many permissions as there are distinct items on its
resources: names made of different items, or on different resources, are different. So a list of bare
names has four permissions for each name, counted without blanks and repetitions. -/
theorem items_stay_distinct (resources specials : ItemTable)
    (plain : ∀ items ∈ resources.values ++ specials.values, ∀ x ∈ items, ' ' ∉ x.toList) :
    let c := compile resources specials
    let items := itemsOf resources specials
    c.size = ∑ r ∈ (resources.keys ++ specials.keys).toFinset, (items r).card ∧
    (∀ r, ∀ x ∈ items r, permissionName x r ∈ c.names) ∧
    (∀ r s, ∀ x ∈ items r, ∀ y ∈ items s,
      permissionName x r = permissionName y s → x = y ∧ r = s) ∧
    ∀ names, ItemTable.ofResources (.ofNames names) = names.foldl ItemTable.addCrud ∅ ∧
      (compile (.ofResources (.ofNames names)) ∅).size =
        4 * (Text.trimNames names).toFinset.card := by
  intro c items
  refine ⟨length_names plain, fun r x hx => ?_, fun r s x hx y hy => ?_, fun names => ?_⟩
  · exact mem_names_compile_iff.mpr ⟨r, (mem_authored_of_plain plain).mpr ⟨x, hx, rfl⟩⟩
  · exact permissionName_inj (plain_of_mem_itemsOf plain hx) (plain_of_mem_itemsOf plain hy)
  · exact ⟨ItemTable.ofResources_ofNames names, length_names_ofNames names⟩

/-- Two resources one of which is the end of the other, and an action that is a special item too. -/
theorem items_stay_distinct_lists :
    let resources := ItemTable.addAll ∅ [("posts", ["read", "pin"]), ("old posts", ["read"])]
    let specials := ItemTable.addAll ∅ [("posts", ["pin", "ban"]), ("tags", ["ban"])]
    (compile resources specials).size = 5 ∧
      permissionName "read" "posts" ≠ permissionName "read" "old posts" ∧
      (compile (.ofResources (.ofNames ["posts", " posts ", "", "old posts"])) ∅).size = 8 := by
  intro resources specials
  obtain ⟨size, -, apart, bare⟩ := items_stay_distinct resources specials (by decide)
  refine ⟨size.trans (by decide +kernel), fun same => ?_, (bare _).2.trans (by decide +kernel)⟩
  exact absurd (apart _ _ "read" (by decide) "read" (by decide) same).2 (by decide)

end Catalog

end Entitlements
