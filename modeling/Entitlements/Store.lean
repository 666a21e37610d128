import Entitlements.Failure

set_option autoImplicit false

/-!
The tables behind the permissions: permission rows, role rows and the links between them. A row is
told by its name and guard. Each table counts the rows offered to it; an offer takes the next number
even when the row is there already and keeps its old id. Long lists are written chunk by chunk.
The times at which rows are made and written are left out, since nothing reads them back.
-/

namespace Entitlements

structure Row where
  id : Int
  name : String
  guard : String
  deriving DecidableEq, Repr

structure Table where
  rows : List Row
  counter : Int
  deriving DecidableEq, Repr

namespace Table

instance : EmptyCollection Table := ⟨⟨[], 0⟩⟩

def find? (t : Table) (name guard : String) : Option Row :=
  t.rows.find? fun r => r.name == name && r.guard == guard

/-- A row is made unless there is one of that name and guard. -/
def offer (t : Table) (name guard : String) : Table :=
  match t.find? name guard with
  | some _ => { t with counter := t.counter + 1 }
  | none => ⟨t.rows ++ [⟨t.counter + 1, name, guard⟩], t.counter + 1⟩

/-- Offers rows, given by name and guard, one after the other. -/
def offerAll (t : Table) (keys : List (String × String)) : Table :=
  keys.foldl (fun t k => t.offer k.1 k.2) t

def hasId (t : Table) (id : Int) : Bool := t.rows.any (·.id == id)

end Table

/-- How many entries one statement takes at most. -/
def chunkSize : Nat := 200

/-- The entries in stretches of `n`, the last of which may be shorter. -/
def chunks {α : Type} (n : Nat) (xs : List α) : List (List α) :=
  (List.range ((xs.length + n - 1) / n)).map fun i => (xs.drop (n * i)).take n

theorem flatten_stretches {α : Type} (n k : Nat) (xs : List α) :
    ((List.range k).map fun i => (xs.drop (n * i)).take n).flatten = xs.take (n * k) := by
  induction k with
  | zero => simp
  | succ k ih => simp [List.range_succ, ih, Nat.mul_succ, List.take_add]

/-- No entry is lost or moved. -/
theorem flatten_chunks {α : Type} {n : Nat} (positive : 0 < n) (xs : List α) :
    (chunks n xs).flatten = xs := by
  have whole := Nat.div_add_mod (xs.length + n - 1) n
  have rest := Nat.mod_lt (xs.length + n - 1) positive
  rw [chunks, flatten_stretches, List.take_of_length_le (by omega)]

example : chunks 2 [1, 2, 3] = [[1, 2], [3]] := by decide

structure Link where
  role : Int
  permission : Int
  deriving DecidableEq, Repr

structure Store where
  permissions : Table
  roles : Table
  links : List Link
  deriving DecidableEq, Repr

namespace Store

instance : EmptyCollection Store := ⟨⟨∅, ∅, []⟩⟩

/-- Offers the permissions of a chunk and counts them. -/
def upsertChunk (w : Nat × Store) (chunk : List (String × String)) : Nat × Store :=
  (w.1 + chunk.length, { w.2 with permissions := w.2.permissions.offerAll chunk })

/-- Offers permissions, given by name and guard; the count is that of the rows written. -/
def upsert (s : Store) (keys : List (String × String)) : Nat × Store :=
  (chunks chunkSize keys).foldl upsertChunk (0, s)

def offerRole (s : Store) (name guard : String) : Store :=
  { s with roles := s.roles.offer name guard }

/-- The ids of the permissions of a guard that bear one of the names. -/
def permissionIds (s : Store) (guard : String) (names : List String) : List Int :=
  (s.permissions.rows.filter fun p => p.guard == guard && names.contains p.name).map (·.id)

/-- Adds the links from a role to the permissions of its guard that bear one of the names; those
that are there stay. A new link to a role that does not exist is refused. -/
def linkChunk (role : Row) (s : Store) (names : List String) : Except Failure Store :=
  let ids := (s.permissionIds role.guard names).filter (!s.links.contains ⟨role.id, ·⟩)
  if ids ≠ [] ∧ s.roles.hasId role.id = false then .error .database
  else .ok { s with links := s.links ++ ids.map (⟨role.id, ·⟩) }

def unlink (s : Store) (role : Int) : Store :=
  { s with links := s.links.filter (·.role != role) }

/-- Replaces the links of a role by those to the named permissions of its guard. The role is taken
as given. -/
def setRolePermissions (s : Store) (role : Row) (names : List String) : Except Failure Store :=
  (chunks chunkSize names).foldlM (linkChunk role) (s.unlink role.id)

def findRole? (s : Store) (name guard : String) : Option Row := s.roles.find? name guard

/-- The permissions of a guard by name. -/
def listPermissions (s : Store) (guard : String) : List Row :=
  (s.permissions.rows.filter (·.guard == guard)).mergeSort fun a b => decide (a.name ≤ b.name)

def rolePermissionIds (s : Store) (role : Int) : List Int :=
  ((s.links.filter (·.role == role)).map (·.permission)).mergeSort fun a b => decide (a ≤ b)

def rolePermissionNames (s : Store) (role : Int) : List String :=
  ((s.permissions.rows.filter fun p => s.links.contains ⟨role, p.id⟩).map (·.name)).mergeSort
    fun a b => decide (a ≤ b)

/-- The links by role and then by permission. -/
def linksById (s : Store) : List Link :=
  s.links.mergeSort fun a b =>
    decide (a.role < b.role) || (a.role == b.role && decide (a.permission ≤ b.permission))

end Store

inductive Access where
  | writable | readOnly | closed
  deriving DecidableEq, Repr

/-- A store and what may be done with it. -/
structure Database where
  store : Store
  access : Access
  deriving DecidableEq, Repr

/-- A step on a database; what it did so far stays when it fails. -/
abbrev Action := EStateM Failure Database

namespace Database

def fresh : Database := ⟨∅, .writable⟩

/-- One transaction: all of it is done, or nothing. -/
def transaction {α : Type} (f : Store → Except Failure (α × Store)) : Action α := fun db =>
  if db.access = .writable then
    match f db.store with
    | .ok (a, store) => .ok a { db with store }
    | .error e => .error e db
  else .error .database db

def query {α : Type} (f : Store → α) : Action α := fun db =>
  if db.access = .closed then .error .database db else .ok (f db.store) db

/-- Nothing is done when there are no rows to write. -/
def upsert (keys : List (String × String)) : Action Nat :=
  if keys = [] then pure 0 else transaction fun s => .ok (s.upsert keys)

def findRole? (name guard : String) : Action (Option Row) := query (·.findRole? name guard)

/-- Makes the role unless it is there, and reads its row. -/
def ensureRole (name guard : String) : Action Row := do
  transaction fun s => .ok ((), s.offerRole name guard)
  match ← findRole? name guard with
  | some row => return row
  | none => throw .database

def setRolePermissions (role : Row) (names : List String) : Action Unit :=
  transaction fun s => (s.setRolePermissions role names).map ((), ·)

def listPermissions (guard : String) : Action (List Row) := query (·.listPermissions guard)

def rolePermissionIds (role : Int) : Action (List Int) := query (·.rolePermissionIds role)

def rolePermissionNames (role : Int) : Action (List String) := query (·.rolePermissionNames role)

def close : Action Unit := fun db => .ok () { db with access := .closed }

end Database

end Entitlements
