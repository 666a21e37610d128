import Entitlements.Proofs.Store.Table

set_option autoImplicit false

/-!
What writing in chunks comes to. Permissions are offered as if there were one chunk. The links of a
role are replaced by those to all permissions found, or, when some are found and there is no such
role, nothing is done.
-/

namespace Entitlements.Store

/-- The store after permissions were offered. -/
def offered (s : Store) (keys : List (String × String)) : Store :=
  { s with permissions := s.permissions.offerAll keys }

theorem foldl_upsertChunk (w : Nat × Store) (cs : List (List (String × String))) :
    cs.foldl upsertChunk w = (w.1 + cs.flatten.length, w.2.offered cs.flatten) := by
  induction cs generalizing w with
  | nil => rfl
  | cons c cs ih =>
    rw [List.foldl_cons, ih, upsertChunk, List.flatten_cons, List.length_append, Nat.add_assoc,
      offered, offered, Table.offerAll_append]

theorem upsert_eq (s : Store) (keys : List (String × String)) :
    s.upsert keys = (keys.length, s.offered keys) := by
  rw [upsert, foldl_upsertChunk, flatten_chunks (by decide), Nat.zero_add]

/-- The ids of the permissions that a role is linked to. -/
def linked (s : Store) (role : Int) : List Int :=
  (s.links.filter (·.role == role)).map (·.permission)

/-- The ids that the names of a list have in a guard, in the order in which its chunks find
them. -/
def grantIds (s : Store) (guard : String) (names : List String) : List Int :=
  ((chunks chunkSize names).flatMap (s.permissionIds guard)).eraseDups

/-- The store with the links of a role replaced. -/
def relinked (s : Store) (role : Row) (names : List String) : Store :=
  { s with links := (s.unlink role.id).links ++
      (s.grantIds role.guard names).map (⟨role.id, ·⟩) }

variable {s : Store} {role : Row} {guard : String} {names : List String} {id other : Int}

theorem mem_permissionIds_iff : id ∈ s.permissionIds guard names ↔
    ∃ p ∈ s.permissions.rows, p.guard = guard ∧ p.name ∈ names ∧ p.id = id := by
  simp [permissionIds, and_assoc]

theorem nodup_permissionIds (h : s.permissions.WellFormed) :
    (s.permissionIds guard names).Nodup :=
  h.ids.sublist (List.filter_sublist.map _)

theorem mem_grantIds_iff : id ∈ s.grantIds guard names ↔
    ∃ p ∈ s.permissions.rows, p.guard = guard ∧ p.name ∈ names ∧ p.id = id := by
  have whole (n : String) : n ∈ names ↔ ∃ c ∈ chunks chunkSize names, n ∈ c := by
    rw [← List.mem_flatten, flatten_chunks (by decide)]
  simp only [grantIds, List.mem_eraseDups, List.mem_flatMap, mem_permissionIds_iff, whole]
  grind

/-- Only the permissions matter. -/
theorem grantIds_congr {s' : Store} (same : s.permissions = s'.permissions) :
    s.grantIds guard names = s'.grantIds guard names := by
  unfold grantIds permissionIds
  rw [same]

theorem nodup_grantIds : (s.grantIds guard names).Nodup := nodup_eraseDups _

/-- A role with some links gets those that are missing, behind the others. -/
theorem linkChunk_of_known (h : s.permissions.WellFormed) (known : s.roles.hasId role.id = true)
    {base : List Link} (others : ∀ l ∈ base, l.role ≠ role.id) {ids : List Int}
    (nodup : ids.Nodup) :
    linkChunk role { s with links := base ++ ids.map (⟨role.id, ·⟩) } names =
      .ok { s with links := base ++
        (ids ++ s.permissionIds role.guard names).eraseDups.map (⟨role.id, ·⟩) } := by
  -- No link of `base` is of this role, so the links it has are those to `ids`.
  have old (id : Int) : ⟨role.id, id⟩ ∈ base ++ ids.map (Link.mk role.id) ↔ id ∈ ids := by
    simp only [List.mem_append, List.mem_map, Link.mk.injEq, true_and, exists_eq_right]
    exact or_iff_right fun hl => others _ hl rfl
  have missing : (s.permissionIds role.guard names).filter
        (!(base ++ ids.map (Link.mk role.id)).contains ⟨role.id, ·⟩) =
      (s.permissionIds role.guard names).filter (· ∉ ids) := by
    simp only [List.contains_eq_mem, old, decide_not]
  rw [eraseDups_append_of_nodup nodup (nodup_permissionIds h), ← missing, List.map_append,
    ← List.append_assoc]
  exact if_neg (by simp [known])

/-- Without such a role, nothing may be found. -/
theorem linkChunk_of_unknown (unknown : s.roles.hasId role.id = false)
    (others : ∀ l ∈ s.links, l.role ≠ role.id) :
    linkChunk role s names =
      if s.permissionIds role.guard names = [] then .ok s else .error .database := by
  have missing : (s.permissionIds role.guard names).filter (!s.links.contains ⟨role.id, ·⟩) =
      s.permissionIds role.guard names := by
    apply List.filter_eq_self.mpr
    intro id _
    simpa using fun hl => others _ hl rfl
  simp only [linkChunk, missing, unknown, and_true]
  split <;> simp_all

theorem foldlM_linkChunk_of_known (h : s.permissions.WellFormed)
    (known : s.roles.hasId role.id = true) {base : List Link}
    (others : ∀ l ∈ base, l.role ≠ role.id) {ids : List Int} (nodup : ids.Nodup)
    (cs : List (List String)) :
    cs.foldlM (linkChunk role) { s with links := base ++ ids.map (⟨role.id, ·⟩) } =
      .ok { s with links := base ++
        (ids ++ cs.flatMap (s.permissionIds role.guard)).eraseDups.map (⟨role.id, ·⟩) } := by
  induction cs generalizing ids with
  | nil =>
    rw [List.flatMap_nil, List.append_nil, eraseDups_of_nodup nodup]
    rfl
  | cons c cs ih =>
    rw [List.foldlM_cons, linkChunk_of_known h known others nodup, List.flatMap_cons,
      ← List.append_assoc, ← eraseDups_append_eraseDups (ids ++ s.permissionIds role.guard c)]
    exact ih (nodup_eraseDups _)

theorem foldlM_linkChunk_of_unknown (unknown : s.roles.hasId role.id = false)
    (others : ∀ l ∈ s.links, l.role ≠ role.id) (cs : List (List String)) :
    cs.foldlM (linkChunk role) s =
      if cs.flatMap (s.permissionIds role.guard) = [] then .ok s else .error .database := by
  induction cs with
  | nil => rfl
  | cons c cs ih =>
    rw [List.foldlM_cons, linkChunk_of_unknown unknown others, List.flatMap_cons]
    by_cases empty : s.permissionIds role.guard c = []
    · rw [if_pos empty, empty, List.nil_append]
      exact ih
    · rw [if_neg empty, if_neg fun both => empty (List.append_eq_nil_iff.mp both).1]
      rfl

theorem role_ne_of_mem_unlink {l : Link} (h : l ∈ (s.unlink id).links) : l.role ≠ id := by
  simpa using (List.mem_filter.mp h).2

/-- Writing the links of a role fails when it would leave links without a role, wherever in the
list the first such permission stands; else the links are replaced as a whole. -/
theorem setRolePermissions_eq (h : s.permissions.WellFormed) (role : Row) (names : List String) :
    s.setRolePermissions role names =
      if s.roles.hasId role.id = false ∧ s.grantIds role.guard names ≠ [] then .error .database
      else .ok (s.relinked role names) := by
  have others (l : Link) (hl : l ∈ (s.unlink role.id).links) := role_ne_of_mem_unlink hl
  cases known : s.roles.hasId role.id with
  | true =>
    have linked := foldlM_linkChunk_of_known (s := s.unlink role.id) h known others List.nodup_nil
      (chunks chunkSize names)
    rw [List.map_nil, List.append_nil, List.nil_append] at linked
    rw [if_neg (by simp)]
    exact linked
  | false =>
    rw [setRolePermissions, foldlM_linkChunk_of_unknown (s := s.unlink role.id) known others]
    by_cases empty :
        (chunks chunkSize names).flatMap ((s.unlink role.id).permissionIds role.guard) = []
    · have ids : s.grantIds role.guard names = [] := eraseDups_eq_nil.mpr empty
      rw [if_pos empty, relinked, ids, List.map_nil, List.append_nil, if_neg (by simp)]
      rfl
    · rw [if_neg empty, if_pos ⟨rfl, eraseDups_eq_nil.not.mpr empty⟩]

end Entitlements.Store
