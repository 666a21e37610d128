import Entitlements.Configuration
import Entitlements.Display
import Entitlements.Json.Printer
import Entitlements.Labeller
import Entitlements.Store.Sync
import Entitlements.Web.Description
import Entitlements.Web.Request

set_option autoImplicit false

/-!
The service over a database: it answers requests for the catalog, roles and labels of one
configuration, syncs it into guards, and shows the permissions that a guard has. Reading never
changes the database.
-/

namespace Entitlements.Web

inductive Body where
  | text (s : String)
  | description (endpoints : List Endpoint) (schemas : List (String × List String))

structure Response where
  status : Nat
  contentType : Option String
  body : Body

namespace Response

def empty (status : Nat) : Response := ⟨status, none, .text ""⟩

def json (v : Json) : Response := ⟨200, some "application/json", .text v.render⟩

def plain (status : Nat) (s : String) : Response :=
  ⟨status, some "text/plain; charset=utf-8", .text s⟩

def ofFailure (f : Failure) : Response :=
  ⟨f.kind.status, some "application/json", .text f.toJson.render⟩

def withoutBody (r : Response) : Response := { r with body := .text "" }

end Response

inductive QueryFault where
  | missing (name : String)
  | duplicate (name : String)
  deriving DecidableEq, Repr

def QueryFault.message : QueryFault → String
  | .missing name => "missing field `" ++ name ++ "`"
  | .duplicate name => "duplicate field `" ++ name ++ "`"

def QueryFault.response (f : QueryFault) : Response :=
  .plain 400 ("Failed to deserialize query string: " ++ f.message)

/-- The first known name that comes a second time. -/
def firstRepeated? (known seen : List String) : List (String × String) → Option String
  | [] => none
  | (k, _) :: fs =>
    if k ∈ seen then some k
    else firstRepeated? known (if k ∈ known then k :: seen else seen) fs

/-- Checks the known fields: none may be repeated and the required ones must be there. -/
def checkFields (required optional : List String) (fields : List (String × String)) :
    Except QueryFault Unit :=
  match firstRepeated? (required ++ optional) [] fields with
  | some k => .error (.duplicate k)
  | none =>
    match required.find? fun k => (fields.lookup k).isNone with
    | some k => .error (.missing k)
    | none => .ok ()

structure Service where
  configuration : Configuration
  dictionary : Dictionary
  locale : String
  fallback : String

namespace Service

def policy (s : Service) : Policy := s.configuration.policy

/-- Labels in the requested locale; a missing or blank one stands for the service's own. -/
def labeller (s : Service) (requested : Option String) : Labeller :=
  let locale := ((requested.map Text.trim).filter (· ≠ "")).getD s.locale
  (Labeller.new s.dictionary locale).withFallback s.fallback

def labelsJson (labels : OrderedMap String) : Json :=
  .object (labels.toList.map fun e => (e.1, .string e.2))

def namesJson (m : OrderedMap (List String)) : Json :=
  .object (m.toList.map fun e => (e.1, .ofStrings e.2))

/-- What the health answer tells of a database that takes no connections. -/
def closedMessage : String := "attempted to acquire a connection on a closed pool"

def health (s : Service) : Action Response := fun db =>
  let ok := decide (db.access ≠ .closed)
  .ok (.json (.object [("status", .string "ok"), ("db_ok", .bool ok),
    ("db_error", if ok then .null else .string closedMessage),
    ("catalog_size", .ofNat s.policy.catalog.size),
    ("locales", .ofStrings s.dictionary.locales)])) db

def catalog (s : Service) (locale : Option String) : Response :=
  let c := s.policy.catalog
  let labels := locale.map fun l => ("labels", labelsJson ((s.labeller (some l)).labels c.names))
  .json (.object ([("count", .ofNat c.size), ("permissions", .ofStrings c.names),
    ("resources", namesJson c.groups)] ++ labels.toList))

def roles (s : Service) : Response :=
  let g := s.policy.grants
  .json (.object [("roles", namesJson g.permissions),
    ("dropped", .array (g.dropped.map Dropped.toJson)),
    ("super_admin_roles", s.configuration.superAdmins.toJson)])

def emptyName : Failure := ⟨.badRequest, "name must not be empty"⟩

def translate (s : Service) (name : String) (locale : Option String) : Response :=
  if Text.trim name = "" then .ofFailure emptyName
  else
    let t := s.labeller locale
    .json (.object [("name", .string name), ("label", .string (t.label name)),
      ("locale", .string t.locale)])

def sync (s : Service) (guard : String) : Action Response := do
  let report ← Database.sync s.policy s.configuration.superAdmins guard
  return .json report.toJson

def storedItems (guard : String) : Action (List Display.Item) := do
  return (← Database.listPermissions guard).map fun r => ⟨some r.id, r.name⟩

def roleMissing (role guard : String) : Failure :=
  ⟨.notFound, "role `" ++ role ++ "` not found in guard `" ++ guard ++ "`"⟩

/-- The ids of the permissions that a role of the guard is linked to. -/
def selected (guard : String) : Option String → Action (List Int)
  | none => return []
  | some role => do
    match ← Database.findRole? role guard with
    | some row => Database.rolePermissionIds row.id
    | none => throw (roleMissing role guard)

def permissions (s : Service) (guard : String) (role locale : Option String) : Action Response := do
  let items ← storedItems guard
  let ids ← selected guard role
  let labels := (s.labeller locale).labels (items.map (·.name))
  return .json (.object [("guard", .string guard), ("role", .ofString? role),
    ("groups", .array ((Display.groups (some labels) ids items).map Display.Group.toJson))])

def flatPermissions (s : Service) (guard : String) (locale : Option String) : Action Response := do
  let items ← storedItems guard
  let labels := (s.labeller locale).labels (items.map (·.name))
  return .json (.array ((Display.flat (some labels) items).map Display.Flat.toJson))

inductive Route where
  | health | catalog | roles | translate | description
  | sync (guard : List UInt8)
  | permissions (guard : List UInt8)
  | flatPermissions (guard : List UInt8)

/-- Segments are compared with their escapes. -/
def Route.ofPath? (path : List (List UInt8)) : Option Route :=
  let is := fun (bs : List UInt8) (s : String) => bs == Text.utf8 s
  match path with
  | [a, b] =>
    if is a "api" then
      if is b "health" then some .health
      else if is b "catalog" then some .catalog
      else if is b "roles" then some .roles
      else if is b "translate" then some .translate
      else none
    else if is a "api-docs" && is b "openapi.json" then some .description
    else none
  | [a, b, guard, c] =>
    if is a "api" && is b "guards" then
      if is c "sync" then some (.sync guard)
      else if is c "permissions" then some (.permissions guard)
      else none
    else none
  | [a, b, guard, c, d] =>
    if is a "api" && is b "guards" && is c "permissions" && is d "flat" then
      some (.flatPermissions guard)
    else none
  | _ => none

/-- The method a route answers to. -/
def Route.method : Route → String
  | .sync _ => "POST"
  | _ => "GET"

/-- A guard in a path must be UTF-8 behind its escapes. -/
def withGuard (raw : List UInt8) (f : String → Action Response) : Action Response :=
  match Text.decodeUtf8? (Text.percentDecode raw) with
  | some guard => f guard
  | none => return .plain 400 "Invalid URL: Invalid UTF-8 in `guard`"

def withFields (required optional : List String) (fields : List (String × String))
    (f : (String → Option String) → Action Response) : Action Response :=
  match checkFields required optional fields with
  | .ok () => f fun k => fields.lookup k
  | .error e => return e.response

def answer (s : Service) (fields : List (String × String)) : Route → Action Response
  | .health => s.health
  | .catalog => withFields [] ["locale"] fields fun get => return s.catalog (get "locale")
  | .roles => return s.roles
  | .translate => withFields ["name"] ["locale"] fields fun get =>
    return s.translate ((get "name").getD "") (get "locale")
  | .description => return ⟨200, some "application/json", .description endpoints schemas⟩
  | .sync raw => withGuard raw s.sync
  | .permissions raw => withGuard raw fun guard =>
    withFields [] ["role", "locale"] fields fun get =>
      s.permissions guard (get "role") (get "locale")
  | .flatPermissions raw => withGuard raw fun guard =>
    withFields [] ["role", "locale"] fields fun get => s.flatPermissions guard (get "locale")

/-- Every path answers to OPTIONS, and where GET is answered HEAD is too, without the body. -/
def handle (s : Service) (r : Request) : Action Response :=
  if r.method = "OPTIONS" then return .empty 200
  else match Route.ofPath? r.path with
    | none => return .empty 404
    | some route =>
      if r.method = route.method then s.answer r.query route
      else return .empty 405

/-- A failure becomes a response; the database keeps what was done. -/
def settle (a : Action Response) (db : Database) : Response × Database :=
  match a db with
  | .ok r db => (r, db)
  | .error f db => (.ofFailure f, db)

def respond (s : Service) (r : Request) (db : Database) : Response × Database :=
  if r.method = "HEAD" then
    let (response, db) := settle (s.handle { r with method := "GET" }) db
    (response.withoutBody, db)
  else settle (s.handle r) db

inductive Event where
  | request (r : Request)
  | closeDatabase

/-- The responses to a row of requests, and the database after them. -/
def serve (s : Service) (db : Database) : List Event → List (Option Response) × Database
  | [] => ([], db)
  | .request r :: es =>
    let (response, db) := s.respond r db
    let (rest, db) := s.serve db es
    (some response :: rest, db)
  | .closeDatabase :: es =>
    let (rest, db) := s.serve { db with access := .closed } es
    (none :: rest, db)

end Service

end Entitlements.Web
