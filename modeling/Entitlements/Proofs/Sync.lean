import Entitlements.Proofs.Grant
import Entitlements.Proofs.Store.Run

set_option autoImplicit false

/-!
A store after a sync. The guard has its permissions and those of the catalog, and every compiled
role has just the links that the compiler grants: what the loop writes for other roles does not
touch them. So the report, which counts what was compiled, counts what is stored.
-/

namespace Entitlements

namespace Policy
variable (p : Policy)

theorem nodup_grants {e : String × RoleGrant} (he : e ∈ p.grants.toList) :
    e.2.permissions.Nodup := by
  obtain ⟨d, -, rfl⟩ := List.mem_map.mp he
  exact Catalog.nodup_grant p.resources p.specials d.1 d.2

theorem grants_subset {e : String × RoleGrant} (he : e ∈ p.grants.toList) :
    e.2.permissions ⊆ p.catalog.names := by
  obtain ⟨d, -, rfl⟩ := List.mem_map.mp he
  exact Catalog.grant_subset p.resources p.specials d.1 d.2

end Policy

namespace Store
variable {s : Store} {guard : String}

@[simp] theorem permissions_foldl_granted (s : Store) (guard : String)
    (es : List (String × RoleGrant)) :
    (es.foldl (granted guard) s).permissions = s.permissions := by
  induction es generalizing s with
  | nil => rfl
  | cons e es ih => exact ih _

theorem roles_foldl_granted (s : Store) (guard : String) (es : List (String × RoleGrant)) :
    (es.foldl (granted guard) s).roles =
      s.roles.offerAll ((es.map Prod.fst).map (·, guard)) := by
  induction es generalizing s with
  | nil => rfl
  | cons e es ih => exact ih _

theorem findRole?_granted (s : Store) (guard : String) (e : String × RoleGrant) :
    (s.granted guard e).roles.find? e.1 guard = some (s.roles.rowFor e.1 guard) :=
  Table.find?_offer s.roles e.1 guard

theorem linked_granted (s : Store) (guard : String) (e : String × RoleGrant) :
    (s.granted guard e).linked (s.roles.rowFor e.1 guard).id =
      s.grantIds guard e.2.permissions := by
  have own : (s.roles.rowFor e.1 guard).guard = guard :=
    congrArg Prod.snd (s.roles.rowFor_spec e.1 guard).2
  rw [granted, linked_relinked, own]
  rfl

/-- The links of other roles stay. -/
theorem linked_granted_of_ne (h : s.WellFormed) {row : Row} (there : row ∈ s.roles.rows)
    {e : String × RoleGrant} (other : row.key ≠ (e.1, guard)) :
    (s.granted guard e).linked row.id = s.linked row.id := by
  apply linked_relinked_of_ne
  intro same
  have offered := evolves_offerRole s e.1 guard
  obtain ⟨there', key⟩ := s.roles.rowFor_spec e.1 guard
  have one := (offered.wellFormed h).roles.eq_of_id (offered.roles.mem_rows there) there' same
  exact other (one ▸ key)

theorem linked_foldl_granted_of_notMem (h : s.WellFormed) {row : Row}
    (there : row ∈ s.roles.rows) {es : List (String × RoleGrant)}
    (others : ∀ e ∈ es, row.key ≠ (e.1, guard)) :
    (es.foldl (granted guard) s).linked row.id = s.linked row.id := by
  induction es generalizing s with
  | nil => rfl
  | cons e es ih =>
    have step := evolves_granted guard s e
    rw [List.foldl_cons, ih (step.wellFormed h) (step.roles.mem_rows there)
      fun f hf => others f (List.mem_cons_of_mem e hf)]
    exact linked_granted_of_ne h there (others e List.mem_cons_self)

/-- Each role has its row, and the links written for it are still there in the end. -/
theorem linked_foldl_granted (h : s.WellFormed) (guard : String) {es : List (String × RoleGrant)}
    (nodup : (es.map Prod.fst).Nodup) {e : String × RoleGrant} (he : e ∈ es) :
    ∃ row, (es.foldl (granted guard) s).roles.find? e.1 guard = some row ∧
      (es.foldl (granted guard) s).linked row.id = s.grantIds guard e.2.permissions := by
  induction es generalizing s with
  | nil => exact absurd he List.not_mem_nil
  | cons f es ih =>
    have step := evolves_granted guard s f
    have wf := step.wellFormed h
    obtain ⟨fresh, nodup⟩ := List.nodup_cons.mp nodup
    rcases List.mem_cons.mp he with rfl | he
    · -- The row is made here; all later entries are of other names, so they write to other rows.
      have found := findRole?_granted s guard e
      obtain ⟨there, key⟩ := Table.find?_spec found
      refine ⟨s.roles.rowFor e.1 guard, ?_, ?_⟩
      · exact (Evolves.foldl (evolves_granted guard) _ es).roles.find? found
      · rw [List.foldl_cons, linked_foldl_granted_of_notMem wf there, linked_granted]
        intro f hf same
        rw [key] at same
        exact fresh ((Prod.mk.inj same).1 ▸ List.mem_map_of_mem hf)
    · exact ih wf nodup he

theorem foldl_offerRole (s : Store) (guard : String) (names : List String) :
    names.foldl (·.offerRole · guard) s =
      { s with roles := s.roles.offerAll (names.map (·, guard)) } := by
  induction names generalizing s with
  | nil => rfl
  | cons name names ih => exact ih _

section Synced
variable (p : Policy) (admins : SuperAdmins)

theorem permissions_synced (s : Store) (guard : String) :
    (s.synced p admins guard).permissions =
      s.permissions.offerAll (p.catalog.names.map (·, guard)) := by
  rw [synced, foldl_offerRole]
  exact permissions_foldl_granted _ guard _

theorem roles_synced (s : Store) (guard : String) :
    (s.synced p admins guard).roles =
      s.roles.offerAll ((p.grants.keys ++ admins.names).map (·, guard)) := by
  rw [synced, foldl_offerRole, List.map_append, Table.offerAll_append]
  exact congrArg (Table.offerAll · _) (roles_foldl_granted _ guard _)

theorem exists_findRole?_synced {name : String} (h : name ∈ p.grants.keys ++ admins.names) :
    ∃ row, (s.synced p admins guard).findRole? name guard = some row := by
  apply Table.exists_find?
  rw [roles_synced, Table.mem_keys_offerAll]
  exact .inr (List.mem_map_of_mem h)

theorem linked_synced (h : s.WellFormed) (guard : String) {e : String × RoleGrant}
    (he : e ∈ p.grants.toList) :
    ∃ row, (s.synced p admins guard).findRole? e.1 guard = some row ∧
      (s.synced p admins guard).linked row.id =
        (s.synced p admins guard).grantIds guard e.2.permissions := by
  have wf := (evolves_offered s (p.catalog.names.map (·, guard))).wellFormed h
  obtain ⟨row, found, linked⟩ := linked_foldl_granted wf guard p.grants.nodup he
  refine ⟨row, ?_, ?_⟩
  · exact (Evolves.foldl (evolves_offerRole · · guard) _ admins.names).roles.find? found
  · have same : (s.synced p admins guard).permissions =
        (s.offered (p.catalog.names.map (·, guard))).permissions :=
      permissions_synced p admins s guard
    rw [grantIds_congr same, synced, foldl_offerRole]
    exact linked

/-- A compiled role is linked to the permissions of its grant in the guard, and to no others. -/
theorem permissionsOf_synced (h : s.WellFormed) (guard : String) {e : String × RoleGrant}
    (he : e ∈ p.grants.toList) :
    ∃ row, (s.synced p admins guard).findRole? e.1 guard = some row ∧
      (((s.synced p admins guard).permissionsOf row.id).map (·.name)).Perm e.2.permissions ∧
      (∀ q ∈ (s.synced p admins guard).permissionsOf row.id, q.guard = guard) ∧
      ((s.synced p admins guard).linked row.id).length = e.2.permissions.length := by
  have wf := (evolves_synced p admins guard s).wellFormed h
  obtain ⟨row, found, linked⟩ := linked_synced p admins h guard he
  have rows := permissionsOf_eq wf.permissions linked
  have known (n : String) (hn : n ∈ e.2.permissions) :
      (n, guard) ∈ (s.synced p admins guard).permissions.keys := by
    rw [permissions_synced, Table.mem_keys_offerAll]
    exact .inr (List.mem_map_of_mem (p.grants_subset he hn))
  have names := rows ▸ Table.names_filter_perm wf.permissions (p.nodup_grants he) known
  refine ⟨row, found, names, fun q hq => ?_, ?_⟩
  · rw [rows] at hq
    simpa using (of_decide_eq_true (List.mem_filter.mp hq).2).1
  · rw [(linked_perm wf row.id).length_eq, List.length_map, ← names.length_eq, List.length_map]

end Synced

/-- How many links the role of a name and guard has. -/
def linkCount (s : Store) (name guard : String) : Nat :=
  (s.findRole? name guard).elim 0 fun row => (s.linked row.id).length

end Store

namespace Database

/-- The entries of the report: compiled roles in their order, then super admin roles that are not
compiled. -/
theorem toList_rolesProcessed (p : Policy) (admins : SuperAdmins) (guard : String) :
    (reportOf p admins guard).rolesProcessed.toList =
      (p.grants.toList.map fun e => (e.1, Outcome.linked e.2.permissions.length)) ++
        (admins.names.filter (· ∉ p.grants.keys)).map (·, Outcome.superAdmin) := by
  have nodup : ((p.grants.toList.map fun e =>
      (e.1, Outcome.linked e.2.permissions.length)).map Prod.fst).Nodup := by
    simpa [Function.comp_def] using p.grants.nodup
  have linked := OrderedMap.toList_ofList nodup
  have keys : (OrderedMap.ofList (p.grants.toList.map fun e =>
      (e.1, Outcome.linked e.2.permissions.length))).keys = p.grants.keys := by
    rw [OrderedMap.keys, linked, List.map_map]
    rfl
  rw [reportOf, OrderedMap.toList_foldl_insertNew _ admins.nodup_names, linked, keys]

/-- On any store that a run leaves open, a sync into a guard that is not blank is done. Afterwards
the guard has its permissions and those of the catalog, each once; a compiled role is linked to just
its permissions, all of them of the guard; super admin roles are there; and the report says so. -/
theorem sync_agrees (cs : List Command) (p : Policy) (admins : SuperAdmins) (guard : String)
    (opened : (run fresh cs).access ≠ .closed) (visible : Text.isBlank guard = false) :
    ∃ report db', sync p admins guard (run fresh cs) = .ok report db' ∧
      let s := (run fresh cs).store
      let s' := db'.store
      let h := Text.trim guard
      (s'.permissions.namesIn h = (s.permissions.namesIn h ++ p.catalog.names).eraseDups ∧
        (s'.permissions.namesIn h).Nodup ∧ s.permissions.rows <+: s'.permissions.rows) ∧
      (∀ role grant, (role, grant) ∈ p.grants.toList →
        ∃ row, s'.findRole? role h = some row ∧
          ((s'.permissionsOf row.id).map (·.name)).Perm grant.permissions ∧
          (∀ q ∈ s'.permissionsOf row.id, q.guard = h) ∧
          (s'.linked row.id).length = grant.permissions.length) ∧
      (∀ role ∈ admins.names, ∃ row, s'.findRole? role h = some row) ∧
      report.guard = h ∧ report.permissionsCount = p.catalog.names.length ∧
      report.droppedReferences = (p.grants.toList.flatMap (·.2.dropped)).length ∧
      report.rolesProcessed.toList =
        (p.grants.keys.map fun role => (role, .linked (s'.linkCount role h))) ++
          (admins.names.filter (· ∉ p.grants.keys)).map (·, .superAdmin) := by
  have wf := wellFormed_run cs
  have writable := writable_run opened
  generalize run fresh cs = db at wf writable ⊢
  obtain ⟨s, access⟩ := db
  subst writable
  have guarded : Text.trim guard ≠ "" := by simp [Text.trim_eq_empty_iff, visible]
  refine ⟨_, _, sync_of_writable wf.permissions p admins guarded, ?_⟩
  have evolves := s.evolves_synced p admins (Text.trim guard)
  have roles {e : String × RoleGrant} (he : e ∈ p.grants.toList) :=
    Store.permissionsOf_synced p admins wf (Text.trim guard) he
  refine ⟨⟨?_, ?_, ?_⟩, fun role grant he => roles he, fun role hr => ?_, rfl, rfl, ?_, ?_⟩
  · rw [Store.permissions_synced, Table.namesIn_offerAll wf.permissions]
  · exact Table.nodup_namesIn (evolves.wellFormed wf).permissions _
  · obtain ⟨new, rows, -⟩ := evolves.permissions.rows
    exact ⟨new, rows.symm⟩
  · exact Store.exists_findRole?_synced p admins (List.mem_append_right _ hr)
  · simp [reportOf, RoleGrants.dropped, OrderedMap.values, List.flatMap_map]
  · rw [toList_rolesProcessed, OrderedMap.keys, List.map_map]
    congr 1
    apply List.map_congr_left
    intro e he
    obtain ⟨row, found, -, -, links⟩ := roles he
    simp [Store.linkCount, found, links]

/-- A role that another guard has too, with a word that names no permission. -/
theorem sync_agrees_editor :
    ∃ report db', sync
        ⟨.ofList [("posts", ["read", "update"])], ∅,
          .ofList [("editor", .mapping [(.name "posts", .scalar "read, fly")])]⟩
        .standard " web " (run fresh [.ensureRole "editor" "api"]) = .ok report db' ∧
      (∃ row, db'.store.findRole? "admin" "web" = some row) ∧ report.guard = "web" ∧
      report.permissionsCount = 2 ∧ report.droppedReferences = 1 := by
  obtain ⟨report, db', done, -, -, supers, guarded, count, dropped, -⟩ :=
    sync_agrees [.ensureRole "editor" "api"]
      ⟨.ofList [("posts", ["read", "update"])], ∅,
        .ofList [("editor", .mapping [(.name "posts", .scalar "read, fly")])]⟩
      .standard " web " (by decide) (by decide)
  have trimmed : Text.trim " web " = "web" := by decide
  rw [trimmed] at supers guarded
  exact ⟨report, db', done, supers "admin" (by decide), guarded, count.trans (by decide),
    dropped.trans (by decide)⟩

end Database

end Entitlements
