import Entitlements.Json.Basic
import Entitlements.NameSet
import Entitlements.Text.Blank

set_option autoImplicit false

/-!
Super admin roles: whoever holds one of them passes every permission check. The names are trimmed,
blank ones left out, each kept once.
-/

namespace Entitlements

structure SuperAdmins where
  set : NameSet
  deriving DecidableEq, Repr

namespace SuperAdmins

def ofList (authored : List String) : SuperAdmins :=
  ⟨.ofList ((authored.map Text.trim).filter (· ≠ ""))⟩

def names (s : SuperAdmins) : List String := s.set.toList

theorem nodup_names (s : SuperAdmins) : s.names.Nodup := s.set.nodup

def single (name : String) : SuperAdmins := ofList [name]

/-- The role that bypasses checks when nothing is configured. -/
def standard : SuperAdmins := single "admin"

instance : Inhabited SuperAdmins := ⟨standard⟩

def contains (s : SuperAdmins) (name : String) : Bool := s.names.contains name

def isEmpty (s : SuperAdmins) : Bool := s.names.isEmpty

/-- The strings of an array of strings. -/
def strings? : List Json → Option (List String)
  | [] => some []
  | .string s :: vs => (strings? vs).map (s :: ·)
  | _ => none

/-- One name or an array of names. -/
def ofJson? : Json → Option SuperAdmins
  | .string s => some (single s)
  | .array vs => (strings? vs).map ofList
  | _ => none

def toJson (s : SuperAdmins) : Json := .ofStrings s.names

/-- A principal is told by the roles it holds. -/
def isHeldBy (s : SuperAdmins) (holds : String → Bool) : Bool := s.names.any holds

/-- Grants outright or leaves the decision to the permission check; it never denies. -/
def verdict (s : SuperAdmins) (holds : String → Bool) : Option Bool :=
  if s.isHeldBy holds then some true else none

end SuperAdmins

/-- A principal whose roles are loaded. -/
structure Principal where
  roles : NameSet
  deriving DecidableEq, Repr

namespace Principal

def ofRoles (roles : List String) : Principal := ⟨.ofList roles⟩

def hasRole (p : Principal) (role : String) : Bool := p.roles.toList.contains role

end Principal

end Entitlements
