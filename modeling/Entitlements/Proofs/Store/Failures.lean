import Entitlements.Proofs.Store.Run

set_option autoImplicit false

/-!
Failures of commands. One transaction is done as a whole or not at all; a sync is several, but none
behind the first can fail when that was done. So every command that fails leaves the database as it
was, and when one fails can be told from the database and the arguments.
-/

namespace Entitlements.Database
variable {α β : Type} {a : Action α} {db : Database}

/-- Where the action fails, the database is as before. -/
def AllOrNothing (a : Action α) (db : Database) : Prop :=
  ∀ e db', a db = .error e db' → db' = db

theorem AllOrNothing.map (h : AllOrNothing a db) (f : α → β) :
    AllOrNothing (a >>= fun x => pure (f x)) db := by
  intro e db' failed
  cases done : a db with
  | ok x db'' =>
    rw [bind_of_ok done] at failed
    cases failed
  | error e' db'' =>
    rw [bind_of_error done] at failed
    cases failed
    exact h e db' done

theorem AllOrNothing.perform {e : Failure} (h : AllOrNothing a db)
    (failed : (perform a db).1 = .error e) : (Database.perform a db).2 = db := by
  cases done : a db with
  | ok x db' =>
    rw [perform_of_ok done] at failed
    cases failed
  | error e' db' =>
    rw [perform_of_error done]
    exact h e' db' done

theorem allOrNothing_transaction (g : Store → Except Failure (α × Store)) (db : Database) :
    AllOrNothing (transaction g) db := by
  intro e db' failed
  rw [transaction] at failed
  split at failed
  · split at failed
    · cases failed
    · cases failed
      rfl
  · cases failed
    rfl

theorem allOrNothing_query (f : Store → α) (db : Database) : AllOrNothing (query f) db := by
  intro e db' failed
  rw [query] at failed
  split at failed
  · cases failed
    rfl
  · cases failed

theorem allOrNothing_upsert (keys : List (String × String)) (db : Database) :
    AllOrNothing (upsert keys) db := by
  unfold upsert
  split
  · intro e db' failed
    cases failed
  · exact allOrNothing_transaction _ db

/-- The role is made in one transaction and read in another, which finds it. -/
theorem allOrNothing_ensureRole (name guard : String) (db : Database) :
    AllOrNothing (ensureRole name guard) db := by
  intro e db' failed
  by_cases writable : db.access = .writable
  · obtain ⟨s, access⟩ := db
    subst writable
    rw [ensureRole_of_writable] at failed
    cases failed
  · rw [ensureRole_of_locked writable] at failed
    cases failed
    rfl

/-- A sync that gets to its first write does all of them: the roles that it links are those that it
has just made. -/
theorem allOrNothing_sync (h : db.store.WellFormed) (p : Policy) (admins : SuperAdmins)
    (guard : String) : AllOrNothing (sync p admins guard) db := by
  intro e db' failed
  by_cases blank : Text.trim guard = ""
  · rw [sync_of_blank p admins blank] at failed
    cases failed
    rfl
  by_cases writable : db.access = .writable
  · obtain ⟨s, access⟩ := db
    subst writable
    rw [sync_of_writable h.permissions p admins blank] at failed
    cases failed
  · rw [sync_of_locked writable p admins blank] at failed
    split at failed
    · cases failed
    · cases failed
      rfl

theorem allOrNothing_command (h : db.store.WellFormed) (c : Command) :
    AllOrNothing c.action db := by
  cases c with
  | upsert ps => exact (allOrNothing_upsert ps db).map _
  | ensureRole name guard => exact (allOrNothing_ensureRole name guard db).map _
  | setRolePermissions role names => exact (allOrNothing_transaction _ db).map _
  | sync p admins guard => exact (allOrNothing_sync h p admins guard).map _
  | close =>
    intro e db' failed
    cases failed
  | _ => exact (allOrNothing_query _ db).map _

theorem setRolePermissions_fails_iff {s : Store} (h : s.permissions.WellFormed) (role : Row)
    (names : List String) :
    (∃ e, (perform (setRolePermissions role names) ⟨s, .writable⟩).1 = .error e) ↔
      (∀ r ∈ s.roles.rows, r.id ≠ role.id) ∧
        ∃ q ∈ s.permissions.rows, q.guard = role.guard ∧ q.name ∈ names := by
  have unknown : s.roles.hasId role.id = false ↔ ∀ r ∈ s.roles.rows, r.id ≠ role.id := by
    rw [← Bool.not_eq_true, Table.hasId_iff]
    simp
  have found : s.grantIds role.guard names ≠ [] ↔
      ∃ q ∈ s.permissions.rows, q.guard = role.guard ∧ q.name ∈ names := by
    constructor
    · intro some
      obtain ⟨id, hid⟩ := List.exists_mem_of_ne_nil _ some
      obtain ⟨q, hq, guard, named, -⟩ := Store.mem_grantIds_iff.mp hid
      exact ⟨q, hq, guard, named⟩
    · rintro ⟨q, hq, guard, named⟩
      exact List.ne_nil_of_mem (Store.mem_grantIds_iff.mpr ⟨q, hq, guard, named, rfl⟩)
  have done := setRolePermissions_of_writable h role names
  rw [← unknown, ← found]
  split at done
  · rename_i refused
    rw [perform_of_error done]
    exact iff_of_true ⟨_, rfl⟩ refused
  · rename_i fine
    rw [perform_of_ok done]
    exact iff_of_false (by simp) fine

theorem sync_fails_iff {s : Store} (h : s.permissions.WellFormed) (p : Policy)
    (admins : SuperAdmins) (guard : String) :
    (∃ e, (perform (sync p admins guard) ⟨s, .writable⟩).1 = .error e) ↔
      Text.isBlank guard = true := by
  rw [← Text.trim_eq_empty_iff]
  by_cases blank : Text.trim guard = ""
  · rw [perform_of_error (sync_of_blank p admins blank _)]
    exact iff_of_true ⟨_, rfl⟩ blank
  · rw [perform_of_ok (sync_of_writable h p admins blank)]
    exact iff_of_false (by simp) blank

/-- The report when there is nothing to write: without roles nothing is dropped either. -/
theorem reportOf_nothing {p : Policy} {admins : SuperAdmins} (guard : String)
    (names : p.catalog.names = []) (roles : p.grants.toList = []) (supers : admins.names = []) :
    reportOf p admins guard = ⟨guard, 0, ∅, 0⟩ := by
  have dropped : p.grants.dropped = [] := by
    rw [RoleGrants.dropped, OrderedMap.values, roles]
    rfl
  rw [reportOf, names, roles, supers, dropped]
  rfl

/-- Where nothing can be written, a sync answers by its guard first, and then by whether there is
anything to write. -/
theorem perform_sync_of_locked (locked : db.access ≠ .writable) (p : Policy)
    (admins : SuperAdmins) (guard : String) :
    (perform (sync p admins guard) db).1 =
      if Text.isBlank guard = true then .error emptyGuard
      else if p.catalog.names = [] ∧ p.roles.keys = [] ∧ admins.names = [] then
        .ok ⟨Text.trim guard, 0, ∅, 0⟩
      else .error .database := by
  have roles : p.grants.toList = [] ↔ p.roles.keys = [] := by
    simp [Policy.grants, OrderedMap.keys]
  by_cases blank : Text.trim guard = ""
  · rw [perform_of_error (sync_of_blank p admins blank db),
      if_pos (Text.trim_eq_empty_iff.mp blank)]
  · have done := sync_of_locked locked p admins blank
    rw [if_neg (Text.trim_eq_empty_iff.not.mp blank)]
    split at done
    · rename_i nothing
      rw [perform_of_ok done, reportOf_nothing _ nothing.1 nothing.2.1 nothing.2.2,
        if_pos ⟨nothing.1, roles.mp nothing.2.1, nothing.2.2⟩]
    · rename_i something
      rw [roles] at something
      rw [perform_of_error done, if_neg something]

/-- After every run, a command that fails changes nothing. Links are refused on an open database
just when the role does not exist and some name of the list is a permission of its guard; a sync
fails there just when its guard is blank. On a closed database a sync with a guard that is not blank
fails just when there is something to write, and otherwise reports nothing. -/
theorem failures_leave_no_trace (cs : List Command) :
    let db := run fresh cs
    (∀ c e, (perform c.action db).1 = .error e → step db c = db) ∧
    (db.access ≠ .closed →
      (∀ role names, (∃ e, (perform (setRolePermissions role names) db).1 = .error e) ↔
        (∀ r ∈ db.store.roles.rows, r.id ≠ role.id) ∧
          ∃ q ∈ db.store.permissions.rows, q.guard = role.guard ∧ q.name ∈ names) ∧
      ∀ p admins guard,
        (∃ e, (perform (sync p admins guard) db).1 = .error e) ↔ Text.isBlank guard = true) ∧
    (db.access = .closed → ∀ p admins guard, (perform (sync p admins guard) db).1 =
      if Text.isBlank guard = true then .error emptyGuard
      else if p.catalog.names = [] ∧ p.roles.keys = [] ∧ admins.names = [] then
        .ok ⟨Text.trim guard, 0, ∅, 0⟩
      else .error .database) := by
  intro db
  have wf : db.store.WellFormed := wellFormed_run cs
  refine ⟨fun c e failed => ?_, fun opened => ?_, fun closed p admins guard => ?_⟩
  · exact (allOrNothing_command wf c).perform failed
  · have writable : db.access = .writable := writable_run opened
    obtain ⟨s, access⟩ := db
    subst writable
    exact ⟨setRolePermissions_fails_iff wf.permissions, sync_fails_iff wf.permissions⟩
  · exact perform_sync_of_locked (by simp [closed]) p admins guard

/-- A made-up handle with a list whose second name is a permission; and a closed database, where a
policy with a permission is refused and one without anything is reported. -/
theorem failures_leave_no_trace_ghost :
    let links : List Command := [.upsert [("read posts", "web")], .ensureRole "editor" "web",
      .setRolePermissions ⟨1, "editor", "web"⟩ ["read posts"]]
    let closed := links ++ [.close]
    let ghost : Command := .setRolePermissions ⟨7, "editor", "web"⟩ ["fly posts", "read posts"]
    let p : Policy := ⟨.ofList [("posts", ["read"])], ∅, ∅⟩
    let nothing : Policy := ⟨∅, ∅, ∅⟩
    (∃ e, (perform ghost.action (run fresh links)).1 = .error e) ∧
      step (run fresh links) ghost = run fresh links ∧
      (perform (sync p ⟨∅⟩ "web") (run fresh closed)).1 = .error .database ∧
      (perform (sync nothing ⟨∅⟩ " web ") (run fresh closed)).1 = .ok ⟨"web", 0, ∅, 0⟩ := by
  intro links closed ghost p nothing
  obtain ⟨clean, fails, -⟩ := failures_leave_no_trace links
  obtain ⟨-, -, locked⟩ := failures_leave_no_trace closed
  obtain ⟨e, refused⟩ :=
    ((fails (by decide)).1 ⟨7, "editor", "web"⟩ ["fly posts", "read posts"]).mpr (by decide)
  have failed : (perform ghost.action (run fresh links)).1 = .error e := by
    rw [Command.action, perform_map, refused]
    rfl
  refine ⟨⟨e, failed⟩, clean ghost e failed, ?_, ?_⟩
  · exact (locked (by decide) p ⟨∅⟩ "web").trans rfl
  · exact (locked (by decide) nothing ⟨∅⟩ " web ").trans rfl

end Entitlements.Database
