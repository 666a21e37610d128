import Entitlements.Proofs.Store.Links

set_option autoImplicit false

/-!
The invariant of stores. Tables are well-formed, no link is stored twice, and every link joins a
role and a permission that exist. Each write keeps this and only lets the tables grow.
-/

namespace Entitlements.Store

structure WellFormed (s : Store) : Prop where
  permissions : s.permissions.WellFormed
  roles : s.roles.WellFormed
  links : s.links.Nodup
  joined : ∀ l ∈ s.links, s.roles.hasId l.role = true ∧ s.permissions.hasId l.permission = true

/-- A store as it may be later on. -/
structure Evolves (s s' : Store) : Prop where
  wellFormed : s.WellFormed → s'.WellFormed
  permissions : s.permissions.Grows s'.permissions
  roles : s.roles.Grows s'.roles

theorem wellFormed_empty : WellFormed ∅ where
  permissions := Table.wellFormed_empty
  roles := Table.wellFormed_empty
  links := List.nodup_nil
  joined _ h := nomatch h

variable {s s' s'' : Store}

theorem Evolves.refl (s : Store) : s.Evolves s := ⟨id, .refl _, .refl _⟩

theorem Evolves.trans (h : s.Evolves s') (h' : s'.Evolves s'') : s.Evolves s'' :=
  ⟨h'.wellFormed ∘ h.wellFormed, h.permissions.trans h'.permissions, h.roles.trans h'.roles⟩

theorem Evolves.foldl {α : Type} {f : Store → α → Store}
    (step : ∀ (s : Store) (a : α), s.Evolves (f s a)) (s : Store) (as : List α) :
    s.Evolves (as.foldl f s) := by
  induction as generalizing s with
  | nil => exact .refl s
  | cons a as ih => exact (step s a).trans (ih _)

theorem evolves_offered (s : Store) (keys : List (String × String)) :
    s.Evolves (s.offered keys) where
  wellFormed h :=
    { permissions := Table.wellFormed_offerAll h.permissions keys
      roles := h.roles
      links := h.links
      joined l hl := (h.joined l hl).imp_right (Table.grows_offerAll s.permissions keys).hasId }
  permissions := Table.grows_offerAll s.permissions keys
  roles := .refl s.roles

theorem evolves_offerRole (s : Store) (name guard : String) :
    s.Evolves (s.offerRole name guard) where
  wellFormed h :=
    { permissions := h.permissions
      roles := Table.wellFormed_offer h.roles name guard
      links := h.links
      joined l hl := (h.joined l hl).imp_left (Table.grows_offer s.roles name guard).hasId }
  permissions := .refl s.permissions
  roles := Table.grows_offer s.roles name guard

variable {role : Row} {names : List String}

theorem mem_links_relinked {l : Link} : l ∈ (s.relinked role names).links ↔
    (l ∈ s.links ∧ l.role ≠ role.id) ∨
      (l.role = role.id ∧ l.permission ∈ s.grantIds role.guard names) := by
  obtain ⟨r, p⟩ := l
  simp [relinked, unlink]
  grind

theorem nodup_links_relinked (h : s.links.Nodup) : (s.relinked role names).links.Nodup := by
  apply (h.filter _).append
  · exact nodup_grantIds.map fun _ _ same => (Link.mk.inj same).2
  · intro l old new
    obtain ⟨_, -, rfl⟩ := List.mem_map.mp new
    exact role_ne_of_mem_unlink old rfl

/-- Links may be replaced when the role exists, or when there is nothing to link it to. -/
theorem evolves_relinked (may : s.roles.hasId role.id = true ∨ s.grantIds role.guard names = []) :
    s.Evolves (s.relinked role names) where
  wellFormed h :=
    { permissions := h.permissions
      roles := h.roles
      links := nodup_links_relinked h.links
      joined l hl := by
        rcases mem_links_relinked.mp hl with ⟨old, -⟩ | ⟨same, new⟩
        · exact h.joined l old
        · have known := may.resolve_right (List.ne_nil_of_mem new)
          obtain ⟨p, hp, -, -, id⟩ := mem_grantIds_iff.mp new
          exact ⟨same ▸ known, Table.hasId_iff.mpr ⟨p, hp, id⟩⟩ }
  permissions := .refl s.permissions
  roles := .refl s.roles

/-- The permissions that a role is linked to. -/
def permissionsOf (s : Store) (role : Int) : List Row :=
  s.permissions.rows.filter fun p => s.links.contains ⟨role, p.id⟩

variable {guard : String} {id : Int}

theorem mem_linked_iff {permission : Int} :
    permission ∈ s.linked id ↔ ⟨id, permission⟩ ∈ s.links := by
  simp only [linked, List.mem_map, List.mem_filter, beq_iff_eq]
  constructor
  · rintro ⟨⟨_, _⟩, ⟨hl, rfl⟩, rfl⟩
    exact hl
  · exact fun hl => ⟨_, ⟨hl, rfl⟩, rfl⟩

theorem nodup_linked (h : s.links.Nodup) (id : Int) : (s.linked id).Nodup := by
  apply (h.filter _).map_on
  intro l hl m hm same
  simp only [List.mem_filter, beq_iff_eq] at hl hm
  obtain ⟨_, _⟩ := l
  obtain ⟨_, _⟩ := m
  exact Link.mk.injEq .. ▸ ⟨hl.2.trans hm.2.symm, same⟩

/-- Every link of a role leads to one of its permissions, and the other way round. -/
theorem linked_perm (h : s.WellFormed) (id : Int) :
    (s.linked id).Perm ((s.permissionsOf id).map (·.id)) := by
  have ids : ((s.permissionsOf id).map (·.id)).Nodup :=
    h.permissions.ids.sublist (List.filter_sublist.map _)
  rw [List.perm_ext_iff_of_nodup (nodup_linked h.links id) ids]
  intro permission
  rw [mem_linked_iff, List.mem_map]
  constructor
  · intro hl
    obtain ⟨p, hp, rfl⟩ := Table.hasId_iff.mp (h.joined _ hl).2
    exact ⟨p, List.mem_filter.mpr ⟨hp, by simpa using hl⟩, rfl⟩
  · rintro ⟨p, hp, rfl⟩
    simpa using (List.mem_filter.mp hp).2

theorem permissionsOf_eq (h : s.permissions.WellFormed)
    (linked : s.linked id = s.grantIds guard names) :
    s.permissionsOf id =
      s.permissions.rows.filter fun p => p.guard = guard ∧ p.name ∈ names := by
  apply List.filter_congr
  intro p hp
  rw [Bool.eq_iff_iff, List.contains_iff_mem, ← mem_linked_iff, linked, mem_grantIds_iff,
    decide_eq_true_iff]
  constructor
  · rintro ⟨q, hq, same, named, id⟩
    rw [← h.eq_of_id hq hp id]
    exact ⟨same, named⟩
  · exact fun ⟨same, named⟩ => ⟨p, hp, same, named, rfl⟩

@[simp] theorem linked_relinked (s : Store) (role : Row) (names : List String) :
    (s.relinked role names).linked role.id = s.grantIds role.guard names := by
  have gone : (s.unlink role.id).links.filter (·.role == role.id) = [] := by
    simp only [List.filter_eq_nil_iff, beq_iff_eq]
    exact fun _ => role_ne_of_mem_unlink
  simp [linked, relinked, gone, List.filter_map, Function.comp_def]

theorem linked_relinked_of_ne (other : id ≠ role.id) :
    (s.relinked role names).linked id = s.linked id := by
  have gone : ((s.grantIds role.guard names).map (Link.mk role.id)).filter (·.role == id) = [] := by
    simp [List.filter_map, Function.comp_def, Ne.symm other]
  have kept : (s.unlink role.id).links.filter (·.role == id) = s.links.filter (·.role == id) := by
    rw [unlink, List.filter_filter]
    apply List.filter_congr
    intro l _
    by_cases same : l.role = id <;> simp [same, other]
  rw [linked, relinked, List.filter_append, kept, gone, List.append_nil, linked]

end Entitlements.Store
