import Entitlements.Proofs.Grant.Items
import Entitlements.Proofs.ItemTable.Contributions

set_option autoImplicit false

/-!
Roles written back. A name of a catalog is trimmed and has a space, so it stands for itself wherever
it is written in a role; a role that is given by its own permissions gets just these.
-/

namespace Entitlements

/-- A name that stands for itself: without outer blanks, and with a space. -/
structure FullName (n : String) : Prop where
  trimmed : Text.Trimmed n
  space : ' ' ∈ n.toList

theorem fullName_permissionName {action resource : String} (ha : Text.Trimmed action)
    (hr : Text.Trimmed resource) : FullName (permissionName action resource) where
  trimmed := ha.around hr " "
  space := by simp [permissionName]

theorem fullName_compose {item resource : String} (hi : Text.Trimmed item)
    (hr : Text.Trimmed resource) : FullName (compose item resource) := by
  by_cases space : ' ' ∈ item.toList
  · rw [compose_of_space space]
    exact ⟨hi, space⟩
  · rw [compose_of_plain space]
    exact fullName_permissionName hi hr

namespace Catalog
variable {resources specials : ItemTable} {rs ss : List (String × List String)}

theorem fullName_of_mem_names (builtR : resources.Built rs) (builtS : specials.Built ss)
    {n : String} (h : n ∈ (compile resources specials).names) : FullName n := by
  obtain ⟨r, hr⟩ := mem_names_compile_iff.mp h
  rcases mem_authored_iff.mp hr with ⟨a, ha, rfl⟩ | ⟨i, hi, rfl⟩
  · obtain ⟨named, action⟩ := builtR.trimmed_of_mem_items ha
    exact fullName_permissionName action named
  · obtain ⟨named, item⟩ := builtS.trimmed_of_mem_items hi
    exact fullName_compose item named

end Catalog

namespace Definition

/-- A list of names. -/
def ofNames (names : List String) : Definition := .list (names.map .scalar)

@[simp] theorem tokens_ofNames (names : List String) : (ofNames names).tokens = names := by
  rw [ofNames, tokens]
  induction names with
  | nil => rfl
  | cons n ns ih =>
    rw [List.map_cons, tokensOfItems, ih]
    rfl

theorem trimmedTokens_eq (d : Definition) : d.trimmedTokens = Text.trimNames d.tokens := rfl

theorem references_keyed {names : List String} (h : ∀ n ∈ names, Text.Trimmed n) (key : String) :
    (mapping [(.name key, ofNames names)]).references = names.map (⟨·, some key⟩) := by
  have keyed : (mapping [(.name key, ofNames names)]).references =
      ((ofNames names).trimmedTokens.map (⟨·, some key⟩) : List Reference) ++ [] := rfl
  rw [keyed, trimmedTokens_eq, tokens_ofNames, Text.trimNames_of_trimmed h, List.append_nil]

/-- Each name of a list stands under a position of its own. -/
theorem references_ofNames {names : List String} (h : ∀ n ∈ names, Text.Trimmed n) :
    (ofNames names).references = names.map (⟨·, none⟩) := by
  rw [references, ofNames, entries]
  generalize 0 = i
  induction names generalizing i with
  | nil => rfl
  | cons n ns ih =>
    obtain ⟨first, rest⟩ := List.forall_mem_cons.mp h
    have single : entryReferences (.position i, .scalar n) = [⟨n, none⟩] := by
      have leaf : (Definition.scalar n).tokens = [n] := rfl
      rw [entryReferences, trimmedTokens_eq, leaf,
        Text.trimNames_of_trimmed (List.forall_mem_singleton.mpr first), List.map_singleton]
    rw [List.map_cons, itemEntries, List.flatMap_cons, single, ih rest, List.map_cons,
      List.singleton_append]
    simp

theorem isWildcard_ofNames {names : List String} (h : ∀ n ∈ names, FullName n) :
    (ofNames names).isWildcard = false := by
  cases names with
  | nil => rfl
  | cons n ns =>
    have full := (h n List.mem_cons_self).space
    have other : n ≠ "*" := by
      rintro rfl
      revert full
      decide
    simpa [ofNames, isWildcard, isStar] using other

end Definition

namespace Catalog
variable {resources specials : ItemTable} {rs ss : List (String × List String)}

theorem resolve?_of_full {c : Catalog} {n : String} (full : FullName n)
    (known : c.contains n = true) (key : String) : c.resolve? ⟨n, some key⟩ = some [n] := by
  have named : Reference.target ⟨n, some key⟩ = n := compose_of_space full.space
  simp [resolve?, named, known]

theorem resolve?_of_apart {c : Catalog} {n : String} (known : c.contains n = true)
    (apart : n ∉ c.groups.keys) : c.resolve? ⟨n, none⟩ = some [n] := by
  simp [resolve?, OrderedMap.get?_eq_none_iff.mpr apart, Reference.target, known]

/-- References that stand for themselves are granted as they come. -/
theorem grant_of_references {c : Catalog} {role : String} {d : Definition} {names : List String}
    {resource : Option String} (plain : d.isWildcard = false)
    (written : d.references = names.map (⟨·, resource⟩)) (distinct : names.Nodup)
    (known : ∀ n ∈ names, c.resolve? ⟨n, resource⟩ = some [n]) : c.grant role d = ⟨names, []⟩ := by
  have granted : (names.flatMap fun n => (c.resolve? ⟨n, resource⟩).getD []) = names := by
    have each : ∀ n ∈ names, (c.resolve? ⟨n, resource⟩).getD [] = [n] := fun n hn => by
      rw [known n hn, Option.getD_some]
    rw [List.flatMap_congr each, List.flatMap_singleton']
  have kept : (names.filter fun n => (c.resolve? ⟨n, resource⟩).isNone) = [] := by
    rw [List.filter_eq_nil_iff]
    intro n hn
    simp [known n hn]
  have empty : (∅ : OpenGrant) = ⟨∅, []⟩ := rfl
  rw [grant, if_neg (by simp [plain]), foldl_follow, written, List.flatMap_map, granted,
    List.filter_map, empty]
  simp [Function.comp_def, kept, OpenGrant.close, NameSet.toList_insertAll,
    eraseDups_of_nodup distinct]

/-- A role that is given the permissions of a role, under a key or as a bare list, gets these in
their order and drops nothing; the bare list must not name a resource. -/
theorem grant_written_back (builtR : resources.Built rs) (builtS : specials.Built ss)
    (role role' key : String) (d : Definition) :
    let c := compile resources specials
    let ps := (c.grant role d).permissions
    c.grant role' (.mapping [(.name key, .ofNames ps)]) = ⟨ps, []⟩ ∧
      ((∀ p ∈ ps, p ∉ c.groups.keys) → c.grant role' (.ofNames ps) = ⟨ps, []⟩) := by
  intro c ps
  have distinct : ps.Nodup := nodup_grant resources specials role d
  have inside : ps ⊆ c.names := grant_subset resources specials role d
  have full (n : String) (hn : n ∈ ps) : FullName n :=
    fullName_of_mem_names builtR builtS (inside hn)
  have known (n : String) (hn : n ∈ ps) : c.contains n = true :=
    ((consistent_compile resources specials).contains_iff n).mpr (inside hn)
  have trimmed (n : String) (hn : n ∈ ps) : Text.Trimmed n := (full n hn).trimmed
  constructor
  · apply grant_of_references rfl (Definition.references_keyed trimmed key) distinct
    intro n hn
    exact resolve?_of_full (full n hn) (known n hn) key
  · intro apart
    apply grant_of_references (Definition.isWildcard_ofNames full)
      (Definition.references_ofNames trimmed) distinct
    intro n hn
    exact resolve?_of_apart (known n hn) (apart n hn)

/-- Permissions of a wildcard, one of them a special item with a space, written back under a foreign
key and as a list. -/
theorem grant_written_back_clerk :
    let resources := ItemTable.ofResources (.scalar " users ")
    let specials := ItemTable.ofSpecials (.mapping [(.name "roles", .scalar "assign permissions")])
    let c := compile resources specials
    let ps := (c.grant "root" (.scalar "*")).permissions
    ps = ["read users", "create users", "update users", "destroy users", "assign permissions"] ∧
      (∀ p ∈ ps, p ∉ c.groups.keys) ∧
      c.grant "clerk" (.mapping [(.name "posts", .ofNames ps)]) = ⟨ps, []⟩ ∧
      c.grant "clerk" (.ofNames ps) = ⟨ps, []⟩ := by
  intro resources specials c ps
  obtain ⟨keyed, bare⟩ := grant_written_back (.resources (.scalar " users "))
    (.specials (.mapping [(.name "roles", .scalar "assign permissions")])) "root" "clerk" "posts"
    (.scalar "*")
  have apart : ∀ p ∈ ps, p ∉ c.groups.keys := by decide
  exact ⟨by decide, apart, keyed, bare apart⟩

end Catalog

end Entitlements
