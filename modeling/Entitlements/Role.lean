import Entitlements.Catalog

set_option autoImplicit false

/-!
Roles against a catalog. A role definition is a row of references; each resolves to names of the
catalog or is dropped. The role gets the names in the order of their first grant.
-/

namespace Entitlements

/-- A token of a role definition; under a key it belongs to that resource. -/
structure Reference where
  token : String
  resource : Option String
  deriving DecidableEq, Repr

/-- ASCII blanks, the vertical tab among them, commas and bars. -/
def delimiter (c : Char) : Bool :=
  c == ' ' || c == '\t' || c == '\n' || c == '\x0b' || c == '\x0c' || c == '\r' || c == ',' ||
    c == '|'

namespace Definition

/-- The leaves without their outer blanks, blank ones left out. -/
def trimmedTokens (d : Definition) : List String :=
  (d.tokens.map Text.trim).filter (· ≠ "")

/-- A string under a resource is cut at delimiters; other values are taken leaf by leaf. -/
def resourceTokens : Definition → List String
  | .scalar s => Text.tokensWhere delimiter s
  | d => d.trimmedTokens

def entryReferences : Key × Definition → List Reference
  | (.position _, d) => d.trimmedTokens.map (⟨·, none⟩)
  | (.name resource, d) => d.resourceTokens.map (⟨·, some resource⟩)

def references (d : Definition) : List Reference := d.entries.flatMap entryReferences

end Definition

/-- The name that a reference is looked up by. -/
def Reference.target (r : Reference) : String :=
  match r.resource with
  | some resource => compose r.token resource
  | none => r.token

/-- What a reference grants: without a resource, the group of that name comes first. -/
def Catalog.resolve? (c : Catalog) (r : Reference) : Option (List String) :=
  match r.resource, c.groups.get? r.token with
  | none, some group => some group
  | _, _ => if c.contains r.target then some [r.target] else none

structure Dropped where
  role : String
  reference : String
  resource : Option String
  deriving DecidableEq, Repr

def Dropped.of (role : String) (r : Reference) : Dropped := ⟨role, r.target, r.resource⟩

def Dropped.toJson (d : Dropped) : Json :=
  .object <| [("role", .string d.role), ("reference", .string d.reference)] ++
    (d.resource.map fun r => ("resource", .string r)).toList

structure RoleGrant where
  permissions : List String
  dropped : List Dropped
  deriving DecidableEq, Repr

/-- A grant while the references are gone through. -/
structure OpenGrant where
  permissions : NameSet
  dropped : List Dropped

namespace OpenGrant

instance : EmptyCollection OpenGrant := ⟨⟨∅, []⟩⟩

def allow (g : OpenGrant) (names : List String) : OpenGrant :=
  { g with permissions := g.permissions.insertAll names }

def drop (g : OpenGrant) (d : Dropped) : OpenGrant := { g with dropped := g.dropped ++ [d] }

def close (g : OpenGrant) : RoleGrant := ⟨g.permissions.toList, g.dropped⟩

end OpenGrant

namespace Catalog

/-- Grants what a reference resolves to, or drops it. -/
def follow (c : Catalog) (role : String) (g : OpenGrant) (r : Reference) : OpenGrant :=
  match c.resolve? r with
  | some names => g.allow names
  | none => g.drop (.of role r)

/-- A wildcard grants the whole catalog and drops nothing. -/
def grant (c : Catalog) (role : String) (d : Definition) : RoleGrant :=
  if d.isWildcard then ⟨c.names, []⟩ else (d.references.foldl (c.follow role) ∅).close

end Catalog

end Entitlements
