import Entitlements.Proofs.Grant
import Entitlements.Proofs.ItemTable

set_option autoImplicit false

/-!
Grants from definitions that are extended. Every group of a catalog only grows by further
contributions, so a token keeps what it stands for; the exception is a permission that becomes the
name of a group.
-/

namespace Entitlements.Catalog
variable {resources specials resources' specials' : ItemTable}

theorem authored_subset_addAll (resources specials : ItemTable)
    (rs ss : List (String × List String)) (r : String) :
    authored resources specials r ⊆ authored (resources.addAll rs) (specials.addAll ss) r := by
  have actions := (resources.prefix_items_addAll rs r).subset
  have items := (specials.prefix_items_addAll ss r).subset
  intro n hn
  rw [mem_authored_iff] at hn ⊢
  exact hn.imp (fun ⟨a, ha, name⟩ => ⟨a, actions ha, name⟩) fun ⟨i, hi, name⟩ => ⟨i, items hi, name⟩

section Grows
variable (grows : ∀ r, authored resources specials r ⊆ authored resources' specials' r)
include grows

theorem names_compile_subset :
    (compile resources specials).names ⊆ (compile resources' specials').names := by
  intro n hn
  obtain ⟨r, hr⟩ := mem_names_compile_iff.mp hn
  exact mem_names_compile_iff.mpr ⟨r, grows r hr⟩

theorem contains_compile_of_contains {n : String}
    (known : (compile resources specials).contains n = true) :
    (compile resources' specials').contains n = true := by
  rw [(consistent_compile _ _).contains_iff] at known ⊢
  exact names_compile_subset grows known

/-- A group is kept, with all that was in it. -/
theorem exists_group_of_grows {r : String} {group : List String}
    (h : (compile resources specials).groups.get? r = some group) :
    ∃ group', (compile resources' specials').groups.get? r = some group' ∧ group ⊆ group' := by
  rw [get?_compile] at h
  split at h
  · cases h
  · rename_i given
    cases h
    have given' : authored resources' specials' r ≠ [] := by
      obtain ⟨n, hn⟩ := List.exists_mem_of_ne_nil _ given
      exact List.ne_nil_of_mem (grows r hn)
    refine ⟨_, (get?_compile _ _ r).trans (if_neg given'), fun n hn => ?_⟩
    exact List.mem_eraseDups.mpr (grows r (List.mem_eraseDups.mp hn))

/-- A token stands for no less than before, unless a new group has taken its name. -/
theorem meaning_subset_of_grows
    (apart : ∀ r ∈ (compile resources' specials').groups.keys,
      r ∉ (compile resources specials).groups.keys →
        (compile resources specials).contains r = false)
    (t : Reference) :
    (compile resources specials).meaning t ⊆ (compile resources' specials').meaning t := by
  intro p hp
  obtain ⟨t, - | r⟩ := t
  · rcases mem_meaning_none.mp hp with ⟨group, found, inside⟩ | ⟨missing, named, known⟩
    · obtain ⟨group', found', subset⟩ := exists_group_of_grows grows found
      exact mem_meaning_none.mpr (.inl ⟨group', found', subset inside⟩)
    · refine mem_meaning_none.mpr (.inr ⟨?_, named, contains_compile_of_contains grows known⟩)
      -- A group of this name would be new, and that is the case left out.
      rw [OrderedMap.get?_eq_none_iff] at missing ⊢
      intro group
      rw [named, apart t group missing] at known
      cases known
  · obtain ⟨named, known⟩ := mem_meaning_some.mp hp
    exact mem_meaning_some.mpr ⟨named, contains_compile_of_contains grows known⟩

end Grows

/-- What a role gets from definitions it also gets when they are extended, and what it drops then it
dropped before, as long as no new group has the name of a permission that was there. -/
theorem extension_revokes_nothing (resources specials : ItemTable)
    (rs ss : List (String × List String))
    (apart : ∀ r ∈ (compile (resources.addAll rs) (specials.addAll ss)).groups.keys,
      r ∉ (compile resources specials).groups.keys →
        (compile resources specials).contains r = false)
    (role : String) (d : Definition) :
    let g := (compile resources specials).grant role d
    let g' := (compile (resources.addAll rs) (specials.addAll ss)).grant role d
    g.permissions ⊆ g'.permissions ∧ g'.dropped.Sublist g.dropped := by
  intro g g'
  have grows := authored_subset_addAll resources specials rs ss
  cases star : d.isWildcard with
  | true =>
    have whole : g = ⟨_, []⟩ := grant_of_wildcard role star
    have whole' : g' = ⟨_, []⟩ := grant_of_wildcard role star
    rw [whole, whole']
    exact ⟨names_compile_subset grows, List.Sublist.refl _⟩
  | false =>
    have tokens : g = _ := grant_of_not_wildcard resources specials role star
    have tokens' : g' = _ :=
      grant_of_not_wildcard (resources.addAll rs) (specials.addAll ss) role star
    have meanings := meaning_subset_of_grows grows apart
    rw [tokens, tokens']
    refine ⟨fun n hn => ?_, ?_⟩
    · simp only [List.mem_eraseDups, List.mem_flatMap] at hn ⊢
      obtain ⟨t, ht, hn⟩ := hn
      exact ⟨t, ht, meanings t hn⟩
    · apply List.Sublist.map
      apply List.monotone_filter_right
      intro t nothing
      rw [decide_eq_true_eq] at nothing ⊢
      exact List.eq_nil_of_subset_nil (nothing ▸ meanings t)

/-- A resource gets another action, and one that had special items only gets actions and another
item; a token that was dropped is granted. -/
theorem extension_revokes_nothing_editor :
    let resources : ItemTable := .ofList [("posts", ["read"])]
    let specials : ItemTable := .ofList [("users", ["ban"])]
    let d : Definition := .list [.scalar "users", .mapping [(.name "posts", .scalar "read fly")]]
    let g := (compile resources specials).grant "editor" d
    let g' := (compile (resources.addAll [("posts", ["fly"]), (" users ", ["read"])])
      (specials.addAll [("users", ["mute"])])).grant "editor" d
    g.permissions = ["ban users", "read posts"] ∧ g.permissions ⊆ g'.permissions ∧
      g.dropped = [⟨"editor", "fly posts", some "posts"⟩] ∧ g'.dropped.Sublist g.dropped := by
  intro resources specials d g g'
  obtain ⟨kept, dropped⟩ := extension_revokes_nothing resources specials
    [("posts", ["fly"]), (" users ", ["read"])] [("users", ["mute"])] (by decide) "editor" d
  exact ⟨by decide, kept, by decide, dropped⟩

end Entitlements.Catalog
