import Entitlements.Proofs.Sorting
import Entitlements.Proofs.Store.Run

set_option autoImplicit false

/-!
Replacing the links of a role. The names come in a list of any length and are looked up chunk by
chunk; still the role has afterwards just the permissions of its guard that the list names, and
nothing else depends on how the list is written.
-/

namespace Entitlements

namespace Store
variable {s : Store} {role : Row} {names names' : List String}

/-- The store with its links by role and then by permission; links are a set, and the order in which
they were made is not read. -/
def ordered (s : Store) : Store := { s with links := s.linksById }

theorem linksById_eq_of_perm {s s' : Store} (same : s.links.Perm s'.links) :
    s.linksById = s'.linksById := by
  apply mergeSort_eq_of_perm _ _ _ same
  · intro a b c
    simp
    omega
  · intro a b
    simp
    omega
  · intro a b
    obtain ⟨r, p⟩ := a
    obtain ⟨r', p'⟩ := b
    simp
    omega

theorem grantIds_perm (same : ∀ n, n ∈ names' ↔ n ∈ names) (guard : String) :
    (s.grantIds guard names').Perm (s.grantIds guard names) := by
  rw [List.perm_ext_iff_of_nodup nodup_grantIds nodup_grantIds]
  intro id
  simp only [mem_grantIds_iff, same]

/-- Names may be listed in any order, and as often as one likes. -/
theorem ordered_relinked_congr (same : ∀ n, n ∈ names' ↔ n ∈ names) :
    (s.relinked role names').ordered = (s.relinked role names).ordered := by
  have links : (s.relinked role names').links.Perm (s.relinked role names).links :=
    ((grantIds_perm same role.guard).map _).append_left _
  rw [ordered, linksById_eq_of_perm links]
  rfl

theorem links_relinked_of_ne : (s.relinked role names).links.filter (·.role != role.id) =
    s.links.filter (·.role != role.id) := by
  have own : ((s.grantIds role.guard names).map (Link.mk role.id)).filter (·.role != role.id) =
      [] := by simp [List.filter_map, Function.comp_def]
  rw [relinked, List.filter_append, own, List.append_nil, unlink, List.filter_filter]
  simp

theorem map_name_permissionsOf_relinked (h : s.permissions.WellFormed) :
    ((s.relinked role names).permissionsOf role.id).map (·.name) =
      (s.permissions.namesIn role.guard).filter (· ∈ names) := by
  rw [permissionsOf_eq (s := s.relinked role names) h (linked_relinked s role names)]
  exact s.permissions.map_name_filter role.guard names

theorem rolePermissionNames_relinked (h : s.permissions.WellFormed) :
    let found := (s.relinked role names).rolePermissionNames role.id
    found.Pairwise (· < ·) ∧
      ∀ n, n ∈ found ↔ n ∈ names ∧ (n, role.guard) ∈ s.permissions.keys := by
  have sorted : (s.relinked role names).rolePermissionNames role.id =
      ((s.permissions.namesIn role.guard).filter (· ∈ names)).mergeSort
        fun a b => decide (a ≤ b) := by
    rw [← map_name_permissionsOf_relinked h]
    rfl
  rw [sorted]
  refine ⟨increasing_mergeSort ((Table.nodup_namesIn h role.guard).filter _), fun n => ?_⟩
  rw [List.mem_mergeSort, List.mem_filter, Table.mem_namesIn_iff, decide_eq_true_iff, and_comm]

theorem rolePermissionIds_relinked (s : Store) (role : Row) (names : List String) :
    let ids := (s.relinked role names).rolePermissionIds role.id
    ids.Pairwise (· < ·) ∧ ∀ id, id ∈ ids ↔ id ∈ s.grantIds role.guard names := by
  have sorted : (s.relinked role names).rolePermissionIds role.id =
      (s.grantIds role.guard names).mergeSort fun a b => decide (a ≤ b) := by
    rw [← linked_relinked]
    rfl
  rw [sorted]
  exact ⟨increasing_mergeSort nodup_grantIds, fun id => List.mem_mergeSort⟩

end Store

namespace Database

/-- On an open database, the links of a role that exists are replaced by those to the permissions of
the handle's guard that the list names. No row and no link of another role changes; the names read
afterwards are those that were found, in order and each once. Two lists of the same names do the
same. -/
theorem links_are_replaced (cs : List Command) (opened : (run fresh cs).access ≠ .closed)
    {role : Row} (known : ∃ r ∈ (run fresh cs).store.roles.rows, r.id = role.id)
    (names : List String) :
    let s := (run fresh cs).store
    ∃ s', setRolePermissions role names (run fresh cs) = .ok () ⟨s', .writable⟩ ∧
      s'.permissions = s.permissions ∧ s'.roles = s.roles ∧
      s'.links.filter (·.role != role.id) = s.links.filter (·.role != role.id) ∧
      s'.links.Nodup ∧
      (∀ id, ⟨role.id, id⟩ ∈ s'.links ↔
        ∃ p ∈ s.permissions.rows, p.guard = role.guard ∧ p.name ∈ names ∧ p.id = id) ∧
      (∃ ids, rolePermissionIds role.id ⟨s', .writable⟩ = .ok ids ⟨s', .writable⟩ ∧
        ids.Pairwise (· < ·) ∧ ∀ id, id ∈ ids ↔ ⟨role.id, id⟩ ∈ s'.links) ∧
      (∃ found, rolePermissionNames role.id ⟨s', .writable⟩ = .ok found ⟨s', .writable⟩ ∧
        found.Pairwise (· < ·) ∧
        ∀ n, n ∈ found ↔ n ∈ names ∧ (n, role.guard) ∈ s.permissions.keys) ∧
      ∀ names', (∀ n, n ∈ names' ↔ n ∈ names) →
        ∃ s'', setRolePermissions role names' (run fresh cs) = .ok () ⟨s'', .writable⟩ ∧
          s''.ordered = s'.ordered := by
  intro s
  have wf : s.WellFormed := wellFormed_run cs
  have db : run fresh cs = ⟨s, .writable⟩ := by rw [← writable_run opened]
  have done (ns : List String) : setRolePermissions role ns (run fresh cs) =
      .ok () ⟨s.relinked role ns, .writable⟩ := by
    have there : s.roles.hasId role.id = true := Table.hasId_iff.mpr known
    rw [db, setRolePermissions_of_writable wf.permissions, if_neg (by simp [there])]
  have own (id : Int) : ⟨role.id, id⟩ ∈ (s.relinked role names).links ↔
      id ∈ s.grantIds role.guard names := by
    rw [← Store.mem_linked_iff, Store.linked_relinked]
  refine ⟨s.relinked role names, done names, rfl, rfl, Store.links_relinked_of_ne,
    Store.nodup_links_relinked wf.links, fun id => (own id).trans Store.mem_grantIds_iff, ?_, ?_, ?_⟩
  · obtain ⟨increasing, members⟩ := Store.rolePermissionIds_relinked s role names
    exact ⟨_, rfl, increasing, fun id => (members id).trans (own id).symm⟩
  · exact ⟨_, rfl, Store.rolePermissionNames_relinked wf.permissions⟩
  · intro names' same
    exact ⟨_, done names', Store.ordered_relinked_congr same⟩

/-- A list of two chunks with an unknown name and repetitions, against a short one in another order;
the handle bears another name than the role. -/
theorem links_are_replaced_chunks :
    let cs : List Command := [.upsert [("read", "web"), ("pin", "web"), ("read", "api")],
      .ensureRole "editor" "web", .setRolePermissions ⟨1, "editor", "web"⟩ ["read"]]
    let guest : Row := ⟨1, "guest", "web"⟩
    let names := "pin" :: List.replicate 250 "ghost" ++ ["read", "pin"]
    (run fresh cs).access ≠ .closed ∧ (∃ r ∈ (run fresh cs).store.roles.rows, r.id = guest.id) ∧
      ∃ s', setRolePermissions guest names (run fresh cs) = .ok () ⟨s', .writable⟩ ∧
        (∀ id, ⟨1, id⟩ ∈ s'.links ↔ id = 1 ∨ id = 2) ∧
        ∃ s'', setRolePermissions guest ["read", "ghost", "pin"] (run fresh cs) =
          .ok () ⟨s'', .writable⟩ ∧ s''.ordered = s'.ordered := by
  intro cs guest names
  have opened : (run fresh cs).access ≠ .closed := by decide +kernel
  have known : ∃ r ∈ (run fresh cs).store.roles.rows, r.id = guest.id := by decide +kernel
  have rows : (run fresh cs).store.permissions.rows =
      [⟨1, "read", "web"⟩, ⟨2, "pin", "web"⟩, ⟨3, "read", "api"⟩] := by decide +kernel
  have listed (n : String) : n ∈ names ↔ n = "pin" ∨ n = "ghost" ∨ n = "read" := by
    simp only [names, List.mem_append, List.mem_cons, List.mem_replicate]
    grind
  obtain ⟨s', done, -, -, -, -, links, -, -, again⟩ := links_are_replaced cs opened known names
  refine ⟨opened, known, s', done, fun id => (links id).trans ?_, again _ fun n => ?_⟩
  · simp [rows, listed, guest, eq_comm]
  · rw [listed]
    grind

end Database

end Entitlements
