import Entitlements.Store.Sync

set_option autoImplicit false

/-!
Commands on a database and runs of them. A command that fails answers with its failure, and the run
goes on.
-/

namespace Entitlements.Database

inductive Command where
  | upsert (permissions : List (String × String))
  | ensureRole (name guard : String)
  | setRolePermissions (role : Row) (names : List String)
  | findRole (name guard : String)
  | listPermissions (guard : String)
  | rolePermissionIds (role : Int)
  | rolePermissionNames (role : Int)
  | sync (policy : Policy) (admins : SuperAdmins) (guard : String)
  | close

inductive Reply where
  | done
  | written (count : Nat)
  | role (row : Row)
  | role? (row : Option Row)
  | rows (rows : List Row)
  | ids (ids : List Int)
  | names (names : List String)
  | report (report : SyncReport)

def Command.action : Command → Action Reply
  | .upsert ps => return .written (← Database.upsert ps)
  | .ensureRole name guard => return .role (← Database.ensureRole name guard)
  | .setRolePermissions role names => do Database.setRolePermissions role names; return .done
  | .findRole name guard => return .role? (← Database.findRole? name guard)
  | .listPermissions guard => return .rows (← Database.listPermissions guard)
  | .rolePermissionIds role => return .ids (← Database.rolePermissionIds role)
  | .rolePermissionNames role => return .names (← Database.rolePermissionNames role)
  | .sync policy admins guard => return .report (← Database.sync policy admins guard)
  | .close => do Database.close; return .done

/-- Runs an action and keeps the database, whether it fails or not. -/
def perform {α : Type} (a : Action α) (db : Database) : Except Failure α × Database :=
  match a db with
  | .ok v db => (.ok v, db)
  | .error e db => (.error e, db)

def step (db : Database) (c : Command) : Database := (perform c.action db).2

/-- The database after a run of commands. -/
def run (db : Database) (cs : List Command) : Database := cs.foldl step db

end Entitlements.Database
