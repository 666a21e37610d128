import Entitlements.Role

set_option autoImplicit false

/-!
A policy holds the authored definitions; its catalog and the grants of its roles are compiled from
them.
-/

namespace Entitlements

/-- Role definitions by role name. -/
abbrev RoleTable := OrderedMap Definition

/-- Roles come as an object; a later role of the same name replaces the definition. -/
def RoleTable.ofDefinition? : Definition → Option RoleTable
  | .mapping es => some (.ofList (es.map fun e => (e.1.toName, e.2)))
  | _ => none

structure Policy where
  resources : ItemTable
  specials : ItemTable
  roles : RoleTable
  deriving Inhabited

abbrev RoleGrants := OrderedMap RoleGrant

namespace RoleGrants

def permissions (g : RoleGrants) : OrderedMap (List String) := g.mapEntries fun _ r => r.permissions

def dropped (g : RoleGrants) : List Dropped := g.values.flatMap (·.dropped)

end RoleGrants

namespace Policy

def catalog (p : Policy) : Catalog := .compile p.resources p.specials

def grants (p : Policy) : RoleGrants := p.roles.mapEntries p.catalog.grant

end Policy

end Entitlements
