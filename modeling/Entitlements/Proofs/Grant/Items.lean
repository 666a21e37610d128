import Entitlements.Proofs.Grant
import Entitlements.Proofs.ItemTable

set_option autoImplicit false

/-!
Items as tokens of a role. An item that a resource was given, written under that resource in a role,
is looked up as it is composed; so it grants the permission made of it, unless it is an action with
a space, which the role takes for a full name.
-/

namespace Entitlements

theorem compose_of_space {item resource : String} (h : ' ' ∈ item.toList) :
    compose item resource = item := if_pos h

theorem compose_of_plain {item resource : String} (h : ' ' ∉ item.toList) :
    compose item resource = permissionName item resource := if_neg h

namespace Catalog
variable {resources specials : ItemTable} {role resource x : String}

theorem references_item (resource : String) (h : Text.Trimmed x) :
    (Definition.mapping [(.name resource, .list [.scalar x])]).references =
      [⟨x, some resource⟩] := by
  have leaves : (Definition.mapping [(.name resource, .list [.scalar x])]).references =
      ((Text.trimNames [x]).map (⟨·, some resource⟩) : List Reference) ++ [] := rfl
  rw [leaves, Text.trimNames_of_trimmed (List.forall_mem_singleton.mpr h)]
  rfl

/-- One item under a resource grants the name composed of it or drops it. -/
theorem grant_item (resources specials : ItemTable) (role resource : String)
    (h : Text.Trimmed x) :
    (compile resources specials).grant role (.mapping [(.name resource, .list [.scalar x])]) =
      if (compile resources specials).contains (compose x resource) then
        ⟨[compose x resource], []⟩
      else ⟨[], [⟨role, compose x resource, some resource⟩]⟩ := by
  rw [grant_of_not_wildcard resources specials role rfl, references_item resource h,
    List.flatMap_singleton]
  by_cases known : (compile resources specials).contains (compose x resource) = true
  · have means : (compile resources specials).meaning ⟨x, some resource⟩ =
        [compose x resource] := if_pos known
    simp [means, known, eraseDups_of_nodup (List.nodup_singleton _)]
  · have means : (compile resources specials).meaning ⟨x, some resource⟩ = [] := if_neg known
    simp [means, known, Dropped.ofToken]

/-- Every special item grants its permission, and so does every action without a space. An action
with a space is taken for a full name: it grants the permission of that name, if there is one, and
is dropped otherwise. -/
theorem item_grants_own_permission (rs ss : List (String × List String)) (role resource : String) :
    let resources := ItemTable.addAll ∅ rs
    let specials := ItemTable.addAll ∅ ss
    let c := compile resources specials
    let granted := fun x => c.grant role (.mapping [(.name resource, .list [.scalar x])])
    (∀ x ∈ specials.items resource, granted x = ⟨[compose x resource], []⟩) ∧
    ∀ x ∈ resources.items resource,
      (' ' ∉ x.toList → granted x = ⟨[permissionName x resource], []⟩) ∧
      (' ' ∈ x.toList → granted x =
        if c.contains x then ⟨[x], []⟩ else ⟨[], [⟨role, x, some resource⟩]⟩) := by
  intro resources specials c granted
  have actions := (ItemTable.tidy_empty.addAll rs).trimmed resource
  have items := (ItemTable.tidy_empty.addAll ss).trimmed resource
  have known {n : String} (h : n ∈ authored resources specials resource) :
      c.contains n = true :=
    ((consistent_compile resources specials).contains_iff n).mpr
      (mem_names_compile_iff.mpr ⟨resource, h⟩)
  refine ⟨fun x hx => ?_, fun x hx => ⟨fun plain => ?_, fun space => ?_⟩⟩
  · have made := known (mem_authored_iff.mpr (.inr ⟨x, hx, rfl⟩))
    exact (grant_item resources specials role resource (items x hx)).trans (if_pos made)
  · have made := known (mem_authored_iff.mpr (.inl ⟨x, hx, rfl⟩))
    rw [← compose_of_plain plain] at made ⊢
    exact (grant_item resources specials role resource (actions x hx)).trans (if_pos made)
  · have looked := grant_item resources specials role resource (actions x hx)
    rw [compose_of_space space] at looked
    exact looked

/-- A special item with a space, and actions with and without one. -/
theorem item_grants_own_permission_clerk :
    let c := compile (.addAll ∅ [("users", [" ban ", "force delete"])])
      (.addAll ∅ [(" users", ["assign permissions"])])
    let granted := fun x => c.grant "clerk" (.mapping [(.name "users", .list [.scalar x])])
    granted "assign permissions" = ⟨["assign permissions"], []⟩ ∧
      granted "ban" = ⟨["ban users"], []⟩ ∧
      granted "force delete" = ⟨[], [⟨"clerk", "force delete", some "users"⟩]⟩ := by
  intro c granted
  obtain ⟨items, actions⟩ := item_grants_own_permission
    [("users", [" ban ", "force delete"])] [(" users", ["assign permissions"])] "clerk" "users"
  refine ⟨items _ (by decide), (actions "ban" (by decide)).1 (by decide), ?_⟩
  exact ((actions "force delete" (by decide)).2 (by decide)).trans (if_neg (by decide))

/-- An action with a space does not grant the permission that the catalog made of it. -/
theorem spaced_action_is_dropped :
    ¬ ∀ (rs ss : List (String × List String)) (role resource x : String),
      x ∈ (ItemTable.addAll ∅ rs).items resource →
        (compile (.addAll ∅ rs) (.addAll ∅ ss)).grant role
            (.mapping [(.name resource, .list [.scalar x])]) =
          ⟨[permissionName x resource], []⟩ := by
  intro always
  have granted := always [("users", ["force delete"])] [] "clerk" "users" "force delete" (by decide)
  have nothing : ((compile (.addAll ∅ [("users", ["force delete"])]) (.addAll ∅ [])).grant "clerk"
      (.mapping [(.name "users", .list [.scalar "force delete"])])).permissions = [] := by decide
  rw [granted] at nothing
  cases nothing

end Catalog

end Entitlements
