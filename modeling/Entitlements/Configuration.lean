import Entitlements.Decimal.Shortest
import Entitlements.Failure
import Entitlements.Json.Path
import Entitlements.Policy
import Entitlements.SuperAdmins
import Entitlements.Text.Quoted

set_option autoImplicit false

/-!
Configuration documents. A document is an object with five known fields, or an array of their
values in order; what is missing has its default. It is read in one pass, which ends at the first
fault and names its place. Unknown members are passed over without decoding their values, and text
behind the document is left alone.
-/

namespace Entitlements

structure Configuration where
  policy : Policy
  superAdmins : SuperAdmins
  defaultGuard : String
  deriving Inhabited

namespace Configuration

def standard : Configuration := ⟨⟨∅, ∅, ∅⟩, .standard, "web"⟩

inductive Field where
  | permissions | specialPermissions | roles | superAdminRole | defaultGuard
  deriving DecidableEq, Repr

def Field.name : Field → String
  | .permissions => "permissions"
  | .specialPermissions => "special_permissions"
  | .roles => "roles"
  | .superAdminRole => "super_admin_role"
  | .defaultGuard => "default_guard"

/-- The fields in the order of the array form. -/
def Field.all : List Field :=
  [.permissions, .specialPermissions, .roles, .superAdminRole, .defaultGuard]

def Field.ofName? (s : String) : Option Field := all.find? (·.name == s)

/-- A text that breaks the rules of JSON is told in the words of its reader. -/
inductive Reason where
  | notJson
  | notDocument (found : Json)
  | duplicate (f : Field)
  | tooMany
  | definition (r : Definition.Refusal)
  | roles
  | superAdmins
  | guardName (found : Json)

structure Fault where
  place : Json.Path
  reason : Reason

/-- A value as a message names it. -/
def described : Json → String
  | .null => "null"
  | .bool true => "boolean `true`"
  | .bool false => "boolean `false`"
  | .number (.integer i) => "integer `" ++ toString i ++ "`"
  | .number (.double negative x) =>
    "floating point `" ++ (if negative then "-" else "") ++ x.text ++ "`"
  | .string s => "string " ++ Text.quoted s
  | .array _ => "sequence"
  | .object _ => "map"

def rolesFailure : Failure :=
  ⟨.definition, "roles must be an object of role name to definition"⟩

def superAdminsMessage : String := "data did not match any variant of untagged enum OneOrMany"

def Reason.text : Reason → String
  | .notJson => "malformed JSON"
  | .notDocument v => "invalid type: " ++ described v ++ ", expected struct PermissionsConfig"
  | .duplicate f => "duplicate field `" ++ f.name ++ "`"
  | .tooMany => "trailing characters"
  | .definition r => Failure.message ⟨.definition, r.message⟩
  | .roles => rolesFailure.message
  | .superAdmins => superAdminsMessage
  | .guardName v => "invalid type: " ++ described v ++ ", expected a string"

def Fault.message (fault : Fault) : String :=
  Failure.message ⟨.configuration, fault.place.text ++ ": " ++ fault.reason.text⟩

/-- The fault as seen from outside. -/
def Fault.under (s : Json.Segment) (fault : Fault) : Fault := ⟨s :: fault.place, fault.reason⟩

def definition (v : Json) : Except Reason Definition := (Definition.ofJson v).mapError .definition

/-- Roles may also come as an empty array. -/
def readRoles (v : Json) : Except Reason RoleTable := do
  let d ← definition v
  match d, RoleTable.ofDefinition? d with
  | .list [], _ => return ∅
  | _, some t => return t
  | _, none => throw .roles

/-- Sets one field from its value. -/
def set (c : Configuration) (f : Field) (v : Json) : Except Reason Configuration :=
  match f with
  | .permissions => do
    let d ← definition v
    return { c with policy := { c.policy with resources := .ofResources d } }
  | .specialPermissions => do
    let d ← definition v
    return { c with policy := { c.policy with specials := .ofSpecials d } }
  | .roles => do
    let t ← readRoles v
    return { c with policy := { c.policy with roles := t } }
  | .superAdminRole =>
    match SuperAdmins.ofJson? v with
    | some s => return { c with superAdmins := s }
    | none => throw .superAdmins
  | .defaultGuard =>
    match v with
    | .string s => return { c with defaultGuard := s }
    | v => throw (.guardName v)

def readValue (levels : Nat) (cs : List Char) : Except Fault (Json × List Char) :=
  (Json.readAt levels cs).mapError (⟨·, .notJson⟩)

/-- An array or object that is refused at its first character, as the name of the guard. -/
def refusedAtStart? (f : Field) (cs : List Char) : Option Json :=
  match f, Json.readToken? cs with
  | .defaultGuard, some (.openArray, _) => some (.array [])
  | .defaultGuard, some (.openObject, _) => some (.object [])
  | _, _ => none

def readField (c : Configuration) (f : Field) (cs : List Char) :
    Except Fault (Configuration × List Char) :=
  match refusedAtStart? f cs with
  | some found => .error ⟨[], .guardName found⟩
  | none => do
    let (v, rest) ← readValue (Json.maxLevels - 1) cs
    let c ← (c.set f v).mapError (⟨[], ·⟩)
    return (c, rest)

/-- Passes over the value of an unknown member. -/
def skipValue (cs : List Char) : Except Fault (List Char) :=
  match Json.Written.read? cs with
  | some (_, rest) => .ok rest
  | none => .error ⟨[], .notJson⟩

/-- Reads on behind the key of a member. -/
def readNamed {α : Type} (k : String) (next : List Char → Except Fault α) (cs : List Char) :
    Except Fault α :=
  match Json.readToken? cs with
  | some (.colon, rest) => (next rest).mapError (.under (.key k))
  | _ => .error ⟨[.key k], .notJson⟩

/-- Reads one member. A field that was seen before is refused at its key. -/
def readMember (c : Configuration) (seen : List Field) (cs : List Char) :
    Except Fault (Configuration × List Field × List Char) :=
  match Json.readToken? cs with
  | some (.string ps, cs) =>
    match Json.decodeString? ps with
    | none => .error ⟨[.unnamed], .notJson⟩
    | some k =>
      match Field.ofName? k with
      | none => (readNamed k skipValue cs).map fun rest => (c, seen, rest)
      | some f =>
        if f ∈ seen then .error ⟨[], .duplicate f⟩
        else (readNamed k (c.readField f) cs).map fun (c, rest) => (c, f :: seen, rest)
  | _ => .error ⟨[.unnamed], .notJson⟩

section Lengths
variable {c : Configuration} {cs rest : List Char}

theorem length_of_readField {f : Field} {p : Configuration × List Char}
    (h : c.readField f cs = .ok p) : p.2.length < cs.length := by
  unfold readField at h
  split at h
  · cases h
  · unfold readValue at h
    cases read : Json.readAt (Json.maxLevels - 1) cs with
    | error path => rw [read] at h; cases h
    | ok q =>
      rw [read] at h
      change ((c.set f q.1).mapError _).bind _ = _ at h
      cases done : c.set f q.1 with
      | error reason => rw [done] at h; cases h
      | ok c' =>
        rw [done] at h
        cases h
        exact Json.length_of_readAt read

theorem length_of_skipValue (h : skipValue cs = .ok rest) : rest.length < cs.length := by
  unfold skipValue at h
  split at h
  · next w r read =>
    cases h
    exact Json.State.length_of_run read
  · cases h

theorem length_of_readNamed {α : Type} {k : String} {next : List Char → Except Fault α} {a : α}
    (behind : α → List Char)
    (shorter : ∀ {cs a}, next cs = .ok a → (behind a).length < cs.length)
    (h : readNamed k next cs = .ok a) : (behind a).length < cs.length := by
  unfold readNamed at h
  split at h
  · next r read =>
    cases done : next r with
    | error fault => rw [done] at h; cases h
    | ok b =>
      rw [done] at h
      cases h
      exact Nat.lt_trans (shorter done) (Json.length_of_readToken? read)
  · cases h

theorem length_of_readMember {seen : List Field} {p : Configuration × List Field × List Char}
    (h : c.readMember seen cs = .ok p) : p.2.2.length < cs.length := by
  unfold readMember at h
  split at h
  · next ps r read =>
    refine Nat.lt_trans ?_ (Json.length_of_readToken? read)
    split at h
    · cases h
    · next k _ =>
      split at h
      · cases done : readNamed k skipValue r with
        | error fault => rw [done] at h; cases h
        | ok r' =>
          rw [done] at h
          cases h
          exact length_of_readNamed id length_of_skipValue done
      · next f _ =>
        split at h
        · cases h
        · cases done : readNamed k (c.readField f) r with
          | error fault => rw [done] at h; cases h
          | ok q =>
            have shorter := length_of_readNamed Prod.snd length_of_readField done
            rw [done] at h
            cases h
            exact shorter
  · cases h

end Lengths

/-- Reads the members of an object up to its closing brace. -/
def readMembers (c : Configuration) (seen : List Field) (cs : List Char) :
    Except Fault Configuration :=
  match _h : c.readMember seen cs with
  | .error fault => .error fault
  | .ok (c, seen, rest) =>
    match _h' : Json.readToken? rest with
    | some (.comma, rest') => c.readMembers seen rest'
    | some (.closeObject, _) => .ok c
    | _ => .error ⟨[.unnamed], .notJson⟩
  termination_by cs.length
  decreasing_by exact Nat.lt_trans (Json.length_of_readToken? _h') (length_of_readMember _h)

/-- The text of the item that comes next, if there is one. -/
def nextItem (i : Nat) (cs : List Char) : Except Fault (Option (List Char)) :=
  match i, Json.readToken? cs with
  | _, some (.closeArray, _) => .ok none
  | 0, _ => .ok (some cs)
  | _, some (.comma, rest) => .ok (some rest)
  | _, _ => .error ⟨[], .notJson⟩

/-- Behind the items for all fields only the closing bracket may come. -/
def endItems (cs : List Char) : Except Fault Unit :=
  match Json.readToken? cs with
  | some (.closeArray, _) => .ok ()
  | some (.comma, rest) =>
    match Json.readToken? rest with
    | some (.closeArray, _) => .error ⟨[], .notJson⟩
    | _ => .error ⟨[], .tooMany⟩
  | _ => if cs.all Json.space then .error ⟨[], .notJson⟩ else .error ⟨[], .tooMany⟩

/-- Reads the items of an array for the fields in order; there may be fewer but not more. -/
def readItems (c : Configuration) (i : Nat) : List Field → List Char → Except Fault Configuration
  | [], cs => (endItems cs).map fun _ => c
  | f :: fs, cs => do
    match ← (nextItem i cs).mapError (.under (.index i)) with
    | none => return c
    | some cs =>
      let (c, rest) ← (c.readField f cs).mapError (.under (.index i))
      c.readItems (i + 1) fs rest

def read (s : String) : Except Fault Configuration :=
  match Json.readToken? s.toList with
  | some (.openObject, cs) =>
    match Json.readToken? cs with
    | some (.closeObject, _) => .ok standard
    | _ => standard.readMembers [] cs
  | some (.openArray, cs) => standard.readItems 0 Field.all cs
  | _ => do
    let (v, _) ← readValue Json.maxLevels s.toList
    throw ⟨[], .notDocument v⟩

end Configuration

end Entitlements
