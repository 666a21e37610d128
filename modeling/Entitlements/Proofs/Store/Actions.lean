import Entitlements.Proofs.Store.Invariant
import Entitlements.Store.Command

set_option autoImplicit false

/-!
What actions come to. On a writable database each is a function of the store; on any other nothing
is written.
-/

namespace Entitlements

namespace Store

/-- The store after a role was made and its links were replaced. -/
def granted (guard : String) (s : Store) (entry : String × RoleGrant) : Store :=
  (s.offerRole entry.1 guard).relinked (s.roles.rowFor entry.1 guard) entry.2.permissions

/-- The store after a policy was synced into a guard. -/
def synced (p : Policy) (admins : SuperAdmins) (guard : String) (s : Store) : Store :=
  admins.names.foldl (·.offerRole · guard)
    (p.grants.toList.foldl (granted guard) (s.offered (p.catalog.names.map (·, guard))))

theorem hasId_rowFor (s : Store) (name guard : String) :
    (s.offerRole name guard).roles.hasId (s.roles.rowFor name guard).id = true :=
  Table.hasId_iff.mpr ⟨_, (s.roles.rowFor_spec name guard).1, rfl⟩

theorem evolves_granted (guard : String) (s : Store) (entry : String × RoleGrant) :
    s.Evolves (s.granted guard entry) :=
  (evolves_offerRole s entry.1 guard).trans (evolves_relinked (.inl (hasId_rowFor s entry.1 guard)))

theorem evolves_synced (p : Policy) (admins : SuperAdmins) (guard : String) (s : Store) :
    s.Evolves (s.synced p admins guard) :=
  (evolves_offered s _).trans <| (Evolves.foldl (evolves_granted guard) _ _).trans <|
    Evolves.foldl (evolves_offerRole · · guard) _ _

end Store

namespace Database

section Bind
variable {ε σ α β : Type} {a : EStateM ε σ α} {f : α → EStateM ε σ β} {s s' : σ}

theorem bind_of_ok {x : α} (h : a s = .ok x s') : (a >>= f) s = f x s' := by
  change EStateM.bind a f s = _
  rw [EStateM.bind, h]

theorem bind_of_error {e : ε} (h : a s = .error e s') : (a >>= f) s = .error e s' := by
  change EStateM.bind a f s = _
  rw [EStateM.bind, h]

end Bind

variable {α β : Type} {db db' : Database}

section Writable
variable {s s' : Store}

theorem transaction_of_ok {g : Store → Except Failure (α × Store)} {x : α}
    (h : g s = .ok (x, s')) : transaction g ⟨s, .writable⟩ = .ok x ⟨s', .writable⟩ := by
  rw [transaction, if_pos rfl, h]

theorem transaction_of_error {g : Store → Except Failure (α × Store)} {e : Failure}
    (h : g s = .error e) : transaction g ⟨s, .writable⟩ = .error e ⟨s, .writable⟩ := by
  rw [transaction, if_pos rfl, h]

theorem upsert_of_writable (keys : List (String × String)) :
    upsert keys ⟨s, .writable⟩ = .ok keys.length ⟨s.offered keys, .writable⟩ := by
  unfold upsert
  split
  · rename_i empty
    rw [empty]
    rfl
  · exact transaction_of_ok (congrArg Except.ok (s.upsert_eq keys))

theorem ensureRole_of_writable (name guard : String) :
    ensureRole name guard ⟨s, .writable⟩ =
      .ok (s.roles.rowFor name guard) ⟨s.offerRole name guard, .writable⟩ := by
  have read : findRole? name guard ⟨s.offerRole name guard, .writable⟩ =
      .ok (some (s.roles.rowFor name guard)) ⟨s.offerRole name guard, .writable⟩ :=
    congrArg (EStateM.Result.ok · _) (Table.find?_offer s.roles name guard)
  rw [ensureRole, bind_of_ok (transaction_of_ok rfl), bind_of_ok read]
  rfl

theorem setRolePermissions_of_writable (h : s.permissions.WellFormed) (role : Row)
    (names : List String) :
    setRolePermissions role names ⟨s, .writable⟩ =
      if s.roles.hasId role.id = false ∧ s.grantIds role.guard names ≠ [] then
        .error .database ⟨s, .writable⟩
      else .ok () ⟨s.relinked role names, .writable⟩ := by
  split
  · rename_i refused
    exact transaction_of_error (by rw [s.setRolePermissions_eq h, if_pos refused]; rfl)
  · rename_i fine
    exact transaction_of_ok (by rw [s.setRolePermissions_eq h, if_neg fine]; rfl)

theorem syncRoles_of_writable (h : s.permissions.WellFormed) (guard : String)
    (done : OrderedMap Outcome) (entries : List (String × RoleGrant)) :
    syncRoles guard done entries ⟨s, .writable⟩ =
      .ok (done.insertAll (entries.map fun e => (e.1, .linked e.2.permissions.length)))
        ⟨entries.foldl (Store.granted guard) s, .writable⟩ := by
  induction entries generalizing s done with
  | nil => rfl
  | cons e rest ih =>
    have written : setRolePermissions (s.roles.rowFor e.1 guard) e.2.permissions
        ⟨s.offerRole e.1 guard, .writable⟩ = .ok () ⟨s.granted guard e, .writable⟩ := by
      rw [setRolePermissions_of_writable (s := s.offerRole e.1 guard) h,
        if_neg (by simp [Store.hasId_rowFor])]
      rfl
    rw [syncRoles, bind_of_ok (ensureRole_of_writable e.1 guard), bind_of_ok written,
      ih (s := s.granted guard e) h]
    rfl

theorem syncAdmins_of_writable (guard : String) (done : OrderedMap Outcome)
    (names : List String) :
    syncAdmins guard done names ⟨s, .writable⟩ =
      .ok (names.foldl (·.insertNew · .superAdmin) done)
        ⟨names.foldl (·.offerRole · guard) s, .writable⟩ := by
  induction names generalizing s done with
  | nil => rfl
  | cons name rest ih =>
    rw [syncAdmins, bind_of_ok (ensureRole_of_writable name guard), ih]
    rfl

/-- What a sync of a policy into a guard answers when all goes well. -/
def reportOf (p : Policy) (admins : SuperAdmins) (guard : String) : SyncReport where
  guard
  permissionsCount := p.catalog.names.length
  rolesProcessed := admins.names.foldl (·.insertNew · .superAdmin)
    (OrderedMap.ofList (p.grants.toList.map fun e => (e.1, .linked e.2.permissions.length)))
  droppedReferences := p.grants.dropped.length

theorem sync_of_blank (p : Policy) (admins : SuperAdmins) {guard : String}
    (blank : Text.trim guard = "") (db : Database) :
    sync p admins guard db = .error emptyGuard db := by
  rw [sync]
  simp only [blank, if_true]
  rfl

/-- The writes of a sync when the guard is not empty. -/
theorem sync_eq (p : Policy) (admins : SuperAdmins) {guard : String}
    (guarded : Text.trim guard ≠ "") :
    sync p admins guard = (do
      let _ ← upsert (p.catalog.names.map (·, Text.trim guard))
      let linked ← syncRoles (Text.trim guard) ∅ p.grants.toList
      let rolesProcessed ← syncAdmins (Text.trim guard) linked admins.names
      return ⟨Text.trim guard, p.catalog.names.length, rolesProcessed,
        p.grants.dropped.length⟩) := by
  rw [sync]
  simp only [if_neg guarded, List.length_map]

theorem sync_of_writable (h : s.permissions.WellFormed) (p : Policy) (admins : SuperAdmins)
    {guard : String} (guarded : Text.trim guard ≠ "") :
    sync p admins guard ⟨s, .writable⟩ =
      .ok (reportOf p admins (Text.trim guard))
        ⟨s.synced p admins (Text.trim guard), .writable⟩ := by
  have offered := upsert_of_writable (s := s) (p.catalog.names.map (·, Text.trim guard))
  have linked := syncRoles_of_writable (s := s.offered (p.catalog.names.map (·, Text.trim guard)))
    (Table.wellFormed_offerAll h _) (Text.trim guard) ∅ p.grants.toList
  rw [sync_eq p admins guarded, bind_of_ok offered, bind_of_ok linked,
    bind_of_ok (syncAdmins_of_writable (Text.trim guard) _ admins.names)]
  rfl

end Writable

section Locked
variable (locked : db.access ≠ .writable)
include locked

theorem transaction_of_locked (g : Store → Except Failure (α × Store)) :
    transaction g db = .error .database db := if_neg locked

theorem upsert_of_locked (keys : List (String × String)) :
    upsert keys db = if keys = [] then .ok 0 db else .error .database db := by
  unfold upsert
  split
  · rfl
  · exact transaction_of_locked locked _

theorem ensureRole_of_locked (name guard : String) :
    ensureRole name guard db = .error .database db := by
  rw [ensureRole, bind_of_error (transaction_of_locked locked _)]

theorem syncRoles_of_locked (guard : String) (done : OrderedMap Outcome)
    (entries : List (String × RoleGrant)) :
    syncRoles guard done entries db =
      if entries = [] then .ok done db else .error .database db := by
  cases entries with
  | nil => rfl
  | cons e rest =>
    rw [syncRoles, bind_of_error (ensureRole_of_locked locked e.1 guard),
      if_neg (List.cons_ne_nil e rest)]

theorem syncAdmins_of_locked (guard : String) (done : OrderedMap Outcome) (names : List String) :
    syncAdmins guard done names db = if names = [] then .ok done db else .error .database db := by
  cases names with
  | nil => rfl
  | cons name rest =>
    rw [syncAdmins, bind_of_error (ensureRole_of_locked locked name guard),
      if_neg (List.cons_ne_nil name rest)]

/-- A sync without anything to write is done anywhere; any other fails at its first write. -/
theorem sync_of_locked (p : Policy) (admins : SuperAdmins) {guard : String}
    (guarded : Text.trim guard ≠ "") :
    sync p admins guard db =
      if p.catalog.names = [] ∧ p.grants.toList = [] ∧ admins.names = [] then
        .ok (reportOf p admins (Text.trim guard)) db
      else .error .database db := by
  have offered := upsert_of_locked locked (p.catalog.names.map (·, Text.trim guard))
  have linked := syncRoles_of_locked locked (Text.trim guard) ∅ p.grants.toList
  have made := syncAdmins_of_locked locked (Text.trim guard) ∅ admins.names
  simp only [List.map_eq_nil_iff] at offered
  rw [sync_eq p admins guarded]
  split at offered
  · rename_i names
    rw [bind_of_ok offered]
    split at linked
    · rename_i roles
      rw [bind_of_ok linked]
      split at made
      · rename_i supers
        rw [bind_of_ok made, if_pos ⟨names, roles, supers⟩, reportOf, roles, supers]
        rfl
      · rename_i supers
        rw [bind_of_error made, if_neg fun nothing => supers nothing.2.2]
    · rename_i roles
      rw [bind_of_error linked, if_neg fun nothing => roles nothing.2.1]
  · rename_i names
    rw [bind_of_error offered, if_neg fun nothing => names nothing.1]

end Locked

end Database

end Entitlements
