import Entitlements.Configuration
import Entitlements.Proofs.Catalog
import Entitlements.Proofs.Definition
import Entitlements.Proofs.ItemTable

set_option autoImplicit false

/-!
Policies with tidy tables, as configurations are read. Every permission of such a policy has a name
that shows.
-/

namespace Entitlements

namespace Policy
variable {p : Policy}

theorem nodup_names (p : Policy) : p.catalog.names.Nodup :=
  (Catalog.consistent_compile p.resources p.specials).nodup_names

/-- Both tables hold trimmed items only. -/
structure Tidy (p : Policy) : Prop where
  resources : p.resources.Tidy
  specials : p.specials.Tidy

theorem trim_permissionName_ne_empty {action : String} (h : Text.Trimmed action)
    (resource : String) : Text.trim (permissionName action resource) ≠ "" := by
  have visible : Text.trim action ≠ "" := by
    rw [h.trim]
    exact h.ne_empty
  rw [Ne, Text.trim_eq_empty_iff, Text.isBlank] at visible ⊢
  simp only [permissionName, String.toList_append, List.all_append, Bool.and_eq_true]
  exact fun blank => visible blank.1.1

theorem trim_compose_ne_empty {item : String} (h : Text.Trimmed item) (resource : String) :
    Text.trim (compose item resource) ≠ "" := by
  unfold compose
  split
  · rw [h.trim]
    exact h.ne_empty
  · exact trim_permissionName_ne_empty h resource

theorem Tidy.trim_name_ne_empty (h : p.Tidy) {name : String} (known : name ∈ p.catalog.names) :
    Text.trim name ≠ "" := by
  obtain ⟨r, authored⟩ := Catalog.mem_names_compile_iff.mp known
  rcases Catalog.mem_authored_iff.mp authored with ⟨a, ha, rfl⟩ | ⟨i, hi, rfl⟩
  · exact trim_permissionName_ne_empty (h.resources.trimmed r a ha) r
  · exact trim_compose_ne_empty (h.specials.trimmed r i hi) r

end Policy

/-- The permissions of a role that is not compiled are none. -/
theorem RoleGrants.mem_permissions_iff {g : RoleGrants} {role name : String} :
    name ∈ (g.permissions.get? role).getD [] ↔
      ∃ e ∈ g.toList, e.1 = role ∧ name ∈ e.2.permissions := by
  have known (names : List String) : g.permissions.get? role = some names ↔
      ∃ e ∈ g.toList, (e.1, e.2.permissions) = (role, names) := by
    rw [OrderedMap.get?_eq_some_iff, permissions, OrderedMap.toList_mapEntries, List.mem_map]
  constructor
  · intro granted
    cases found : g.permissions.get? role with
    | none =>
      rw [found] at granted
      exact absurd granted List.not_mem_nil
    | some names =>
      rw [found] at granted
      obtain ⟨e, he, same⟩ := (known names).mp found
      obtain ⟨rfl, rfl⟩ := Prod.mk.inj same
      exact ⟨e, he, rfl, granted⟩
  · rintro ⟨e, he, rfl, granted⟩
    rw [(known e.2.permissions).mpr ⟨e, he, rfl⟩]
    exact granted

namespace Configuration
variable {c c' : Configuration}

theorem tidy_standard : standard.policy.Tidy := ⟨ItemTable.tidy_empty, ItemTable.tidy_empty⟩

theorem tidy_set (h : c.policy.Tidy) {f : Field} {v : Json} (done : c.set f v = .ok c') :
    c'.policy.Tidy := by
  cases f with
  | permissions =>
    obtain ⟨d, -, rest⟩ := exists_of_bind_eq_ok done
    cases rest
    exact ⟨ItemTable.tidy_ofResources d, h.specials⟩
  | specialPermissions =>
    obtain ⟨d, -, rest⟩ := exists_of_bind_eq_ok done
    cases rest
    exact ⟨h.resources, ItemTable.tidy_ofSpecials d⟩
  | roles =>
    obtain ⟨t, -, rest⟩ := exists_of_bind_eq_ok done
    cases rest
    exact ⟨h.resources, h.specials⟩
  | superAdminRole =>
    rw [set] at done
    split at done <;> cases done
    exact ⟨h.resources, h.specials⟩
  | defaultGuard =>
    cases v <;> cases done
    exact ⟨h.resources, h.specials⟩

theorem tidy_readField (h : c.policy.Tidy) {f : Field} {cs : List Char}
    {p : Configuration × List Char} (done : c.readField f cs = .ok p) : p.1.policy.Tidy := by
  unfold readField at done
  split at done
  · cases done
  · obtain ⟨q, -, done⟩ := exists_of_bind_eq_ok done
    obtain ⟨c', first, rest⟩ := exists_of_bind_eq_ok done
    cases rest
    exact tidy_set h (eq_ok_of_mapError first)

theorem tidy_readMember (h : c.policy.Tidy) {seen : List Field} {cs : List Char}
    {p : Configuration × List Field × List Char} (done : c.readMember seen cs = .ok p) :
    p.1.policy.Tidy := by
  unfold readMember at done
  split at done
  · split at done
    · cases done
    · split at done
      · obtain ⟨r, -, rfl⟩ := exists_of_map_eq_ok done
        exact h
      · split at done
        · cases done
        · obtain ⟨q, named, rfl⟩ := exists_of_map_eq_ok done
          unfold readNamed at named
          split at named
          · exact tidy_readField h (eq_ok_of_mapError named)
          · cases named
  · cases done

theorem tidy_readMembers {seen : List Field} {cs : List Char} (h : c.policy.Tidy)
    (done : c.readMembers seen cs = .ok c') : c'.policy.Tidy := by
  fun_induction readMembers c seen cs with
  | case1 => cases done
  | case2 c seen cs c₁ seen₁ rest member rest' comma ih => exact ih (tidy_readMember h member) done
  | case3 c seen cs c₁ seen₁ rest member rest' close =>
    cases done
    exact tidy_readMember h member
  | case4 => cases done

theorem tidy_readItems (h : c.policy.Tidy) {i : Nat} {fs : List Field} {cs : List Char}
    (done : c.readItems i fs cs = .ok c') : c'.policy.Tidy := by
  induction fs generalizing c i cs with
  | nil =>
    obtain ⟨-, -, rfl⟩ := exists_of_map_eq_ok done
    exact h
  | cons f fs ih =>
    obtain ⟨next, -, done⟩ := exists_of_bind_eq_ok done
    cases next with
    | none =>
      cases done
      exact h
    | some cs =>
      obtain ⟨p, first, done⟩ := exists_of_bind_eq_ok done
      exact ih (tidy_readField h (eq_ok_of_mapError first)) done

/-- Tables that are read are tidy, however they were authored. -/
theorem tidy_read {document : String} (done : read document = .ok c) : c.policy.Tidy := by
  unfold read at done
  split at done
  · split at done
    · cases done
      exact tidy_standard
    · exact tidy_readMembers tidy_standard done
  · exact tidy_readItems tidy_standard done
  · obtain ⟨p, -, refused⟩ := exists_of_bind_eq_ok done
    cases refused

end Configuration

end Entitlements
