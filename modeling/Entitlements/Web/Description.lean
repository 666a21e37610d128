set_option autoImplicit false

/-!
The description of the interface: endpoints with their parameters and statuses, and the members of
the objects that they answer with.
-/

namespace Entitlements.Web

inductive Place where
  | path | query
  deriving DecidableEq, Repr

structure Parameter where
  place : Place
  name : String
  required : Bool
  deriving DecidableEq, Repr

structure Endpoint where
  path : String
  method : String
  tag : String
  parameters : List Parameter
  statuses : List Nat
  deriving DecidableEq, Repr

def localeParameter : Parameter := ⟨.query, "locale", false⟩

def guardParameter : Parameter := ⟨.path, "guard", true⟩

def roleParameter : Parameter := ⟨.query, "role", false⟩

/-- The endpoints by path. -/
def endpoints : List Endpoint := [
  ⟨"/api/catalog", "get", "Catalog", [localeParameter], [200]⟩,
  ⟨"/api/guards/\x7bguard\x7d/permissions", "get", "Guards",
    [guardParameter, roleParameter, localeParameter], [200, 404]⟩,
  ⟨"/api/guards/\x7bguard\x7d/permissions/flat", "get", "Guards",
    [guardParameter, roleParameter, localeParameter], [200]⟩,
  ⟨"/api/guards/\x7bguard\x7d/sync", "post", "Guards", [guardParameter], [200, 400]⟩,
  ⟨"/api/health", "get", "Health", [], [200]⟩,
  ⟨"/api/roles", "get", "Catalog", [], [200]⟩,
  ⟨"/api/translate", "get", "Catalog", [⟨.query, "name", true⟩, localeParameter], [200, 400]⟩]

/-- The objects by name, each with its members in increasing order. -/
def schemas : List (String × List String) := [
  ("CatalogResponse", ["count", "labels", "permissions", "resources"]),
  ("DroppedReference", ["reference", "resource", "role"]),
  ("FlatPermission", ["id", "label", "name", "search_label"]),
  ("GroupedPermission", ["checked", "id", "label", "name", "search_label"]),
  ("GuardPermissionsResponse", ["groups", "guard", "role"]),
  ("HealthResponse", ["catalog_size", "db_error", "db_ok", "locales", "status"]),
  ("PermissionGroup", ["items", "key", "title"]),
  ("RolesResponse", ["dropped", "roles", "super_admin_roles"]),
  ("SyncReport", ["dropped_references", "guard", "permissions_count", "roles_processed"]),
  ("TranslateResponse", ["label", "locale", "name"])]

def Place.name : Place → String
  | .path => "path"
  | .query => "query"

def Parameter.text (p : Parameter) : String :=
  p.place.name ++ ":" ++ p.name ++ ":" ++ (if p.required then "true" else "false")

end Entitlements.Web
