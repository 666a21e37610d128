import Entitlements.Policy
import Entitlements.Store
import Entitlements.SuperAdmins

set_option autoImplicit false

/-!
Syncing a policy into a guard: the permissions of the catalog are offered, each compiled role gets
exactly its permissions, and super admin roles are made when they are missing. The report tells
what the compiler granted.
-/

namespace Entitlements

inductive Outcome where
  | linked (count : Nat)
  | superAdmin
  deriving DecidableEq, Repr

def Outcome.text : Outcome → String
  | .linked n => .ofList (Nat.toDigits 10 n)
  | .superAdmin => "SUPER ADMIN"

def Outcome.toJson : Outcome → Json
  | .linked n => .ofNat n
  | .superAdmin => .string "SUPER ADMIN"

structure SyncReport where
  guard : String
  permissionsCount : Nat
  rolesProcessed : OrderedMap Outcome
  droppedReferences : Nat

namespace SyncReport

def toJson (r : SyncReport) : Json :=
  .object [("guard", .string r.guard), ("permissions_count", .ofNat r.permissionsCount),
    ("roles_processed", .object (r.rolesProcessed.toList.map fun e => (e.1, e.2.toJson))),
    ("dropped_references", .ofNat r.droppedReferences)]

end SyncReport

namespace Database

def emptyGuard : Failure := ⟨.badRequest, "guard name must not be empty"⟩

/-- Writes compiled roles and their links, and enters each into the report. -/
def syncRoles (guard : String) (done : OrderedMap Outcome) :
    List (String × RoleGrant) → Action (OrderedMap Outcome)
  | [] => return done
  | (role, grant) :: rest => do
    let row ← ensureRole role guard
    setRolePermissions row grant.permissions
    syncRoles guard (done.insert role (.linked grant.permissions.length)) rest

/-- Makes super admin roles; one that is in the report already keeps its count. -/
def syncAdmins (guard : String) (done : OrderedMap Outcome) :
    List String → Action (OrderedMap Outcome)
  | [] => return done
  | role :: rest => do
    let _ ← ensureRole role guard
    syncAdmins guard (done.insertNew role .superAdmin) rest

/-- The guard is taken without its outer blanks and must not be empty. -/
def sync (p : Policy) (admins : SuperAdmins) (guard : String) : Action SyncReport := do
  let guard := Text.trim guard
  if guard = "" then throw emptyGuard
  let keys := p.catalog.names.map (·, guard)
  let _ ← upsert keys
  let linked ← syncRoles guard ∅ p.grants.toList
  let rolesProcessed ← syncAdmins guard linked admins.names
  return { guard, permissionsCount := keys.length, rolesProcessed
           droppedReferences := p.grants.dropped.length }

end Database

end Entitlements
