import Entitlements.Proofs.Display
import Entitlements.Proofs.Store.Links
import Entitlements.Proofs.Store.Table
import Entitlements.Proofs.Web.Target
import Entitlements.Proofs.Web.Writes

set_option autoImplicit false

/-!
What an open database answers. A target leads to its route with the guard and the fields that it was
written from; a listing has the permissions of the guard with their labels, and a role screen has
them by group with a mark for each.
-/

namespace Entitlements.Web.Service
open Text (utf8 escaped)
variable {s : Service} {guard role locale : String} {db : Database}

theorem respond_routed {path : List (List UInt8)} {route : Route}
    (routed : Route.ofPath? path = some route) (get : route.method = "GET")
    (fields : List (String × String)) (db : Database) :
    s.respond ⟨"GET", path, fields⟩ db = settle (s.answer fields route) db := by
  have noHead : "GET" ≠ "HEAD" := by decide
  have noOptions : "GET" ≠ "OPTIONS" := by decide
  rw [respond, if_neg noHead, handle, if_neg noOptions, routed]
  simp only
  rw [get, if_pos rfl]

theorem respond_get {path : List String} {route : Route} (given : path ≠ [])
    (routed : Route.ofPath? (path.map fun s => utf8 (escaped s)) = some route)
    (get : route.method = "GET") (fields : List (String × String)) (db : Database) :
    s.respond (.ofTarget "GET" (target path fields)) db = settle (s.answer fields route) db := by
  rw [ofTarget_target "GET" given, respond_routed routed get]

theorem withGuard_of_decoded {raw : List UInt8}
    (decoded : Text.decodeUtf8? (Text.percentDecode raw) = some guard)
    (f : String → Action Response) : withGuard raw f = f guard := by
  rw [withGuard, decoded]

theorem withGuard_escaped (guard : String) (f : String → Action Response) :
    withGuard (utf8 (escaped guard)) f = f guard :=
  withGuard_of_decoded (Text.decodeUtf8?_escaped guard) f

theorem respond_permissions (s : Service) (guard role locale : String) (db : Database) :
    s.respond (.ofTarget "GET" (target ["api", "guards", guard, "permissions"]
      [("role", role), ("locale", locale)])) db =
        settle (s.permissions guard (some role) (some locale)) db := by
  have routed : Route.ofPath? (["api", "guards", guard, "permissions"].map fun s =>
      utf8 (escaped s)) = some (.permissions (utf8 (escaped guard))) := rfl
  rw [respond_get (by simp) routed rfl, answer, withGuard_escaped]
  rfl

theorem respond_flatPermissions (s : Service) (guard locale : String) (db : Database) :
    s.respond (.ofTarget "GET" (target ["api", "guards", guard, "permissions", "flat"]
      [("locale", locale)])) db = settle (s.flatPermissions guard (some locale)) db := by
  have routed : Route.ofPath? (["api", "guards", guard, "permissions", "flat"].map fun s =>
      utf8 (escaped s)) = some (.flatPermissions (utf8 (escaped guard))) := rfl
  rw [respond_get (by simp) routed rfl, answer, withGuard_escaped]
  rfl

theorem respond_translate (s : Service) (name locale : String) (db : Database) :
    s.respond (.ofTarget "GET" (target ["api", "translate"]
      [("name", name), ("locale", locale)])) db = (s.translate name (some locale), db) := by
  have routed : Route.ofPath? (["api", "translate"].map fun s => utf8 (escaped s)) =
      some .translate := rfl
  rw [respond_get (by simp) routed rfl, answer]
  rfl

theorem translate_of_visible {name : String} (visible : Text.trim name ≠ "")
    (locale : Option String) :
    s.translate name locale = .json (.object [("name", .string name),
      ("label", .string ((s.labeller locale).label name)),
      ("locale", .string (s.labeller locale).locale)]) := if_neg visible

/-- The permissions of a guard as items. -/
def listed (db : Database) (guard : String) : List Display.Item :=
  (db.store.listPermissions guard).map fun r => ⟨some r.id, r.name⟩

def labelsIn (s : Service) (db : Database) (guard locale : String) : OrderedMap String :=
  (s.labeller (some locale)).labels ((listed db guard).map (·.name))

def flatIn (s : Service) (db : Database) (guard locale : String) : List Display.Flat :=
  Display.flat (some (s.labelsIn db guard locale)) (listed db guard)

def groupsIn (s : Service) (db : Database) (guard locale : String) (role : Row) :
    List Display.Group :=
  Display.groups (some (s.labelsIn db guard locale)) (db.store.rolePermissionIds role.id)
    (listed db guard)

section Open
variable (opened : db.access ≠ .closed)
include opened

theorem query_of_open {α : Type} (f : Store → α) : Database.query f db = .ok (f db.store) db :=
  if_neg opened

theorem findRole?_of_open {found : Option Row} (h : db.store.findRole? role guard = found) :
    Database.findRole? role guard db = .ok found db :=
  (query_of_open opened _).trans (congrArg (EStateM.Result.ok · db) h)

theorem storedItems_of_open (guard : String) :
    storedItems guard db = .ok (listed db guard) db :=
  Database.bind_of_ok (query_of_open opened _)

theorem flatPermissions_of_open (guard : String) :
    s.flatPermissions guard (some locale) db =
      .ok (.json (.array ((s.flatIn db guard locale).map Display.Flat.toJson))) db := by
  rw [flatPermissions, Database.bind_of_ok (storedItems_of_open opened guard)]
  rfl

theorem permissions_of_role {row : Row} (found : db.store.findRole? role guard = some row) :
    s.permissions guard (some role) (some locale) db =
      .ok (.json (.object [("guard", .string guard), ("role", .string role),
        ("groups", .array ((s.groupsIn db guard locale row).map Display.Group.toJson))])) db := by
  have ids : selected guard (some role) db = .ok (db.store.rolePermissionIds row.id) db :=
    (Database.bind_of_ok (findRole?_of_open opened found)).trans (query_of_open opened _)
  rw [permissions, Database.bind_of_ok (storedItems_of_open opened guard), Database.bind_of_ok ids]
  rfl

theorem permissions_of_missing (missing : db.store.findRole? role guard = none) :
    s.permissions guard (some role) (some locale) db = .error (roleMissing role guard) db := by
  have ids : selected guard (some role) db = .error (roleMissing role guard) db :=
    Database.bind_of_ok (findRole?_of_open opened missing)
  rw [permissions, Database.bind_of_ok (storedItems_of_open opened guard),
    Database.bind_of_error ids]

end Open

theorem mem_listed {i : Display.Item} : i ∈ listed db guard ↔
    ∃ p ∈ db.store.permissions.rows, p.guard = guard ∧ ⟨some p.id, p.name⟩ = i := by
  simp [listed, Store.listPermissions, and_assoc]

theorem names_listed_perm (db : Database) (guard : String) :
    ((listed db guard).map (·.name)).Perm (db.store.permissions.namesIn guard) := by
  rw [listed, List.map_map]
  exact (List.mergeSort_perm _ _).map _

theorem names_flatIn_perm (s : Service) (db : Database) (guard locale : String) :
    ((s.flatIn db guard locale).map (·.name)).Perm (db.store.permissions.namesIn guard) :=
  (Display.names_flat_perm _ _).trans (names_listed_perm db guard)

/-- Labels come through a map by name, and each comes to its own name. -/
theorem label_of_mem_flatIn {e : Display.Flat} (h : e ∈ s.flatIn db guard locale) :
    e.label = (s.labeller (some locale)).label e.name := by
  obtain ⟨i, hi, rfl⟩ := List.mem_map.mp ((Display.flat_perm _ _).mem_iff.mp h)
  rw [Display.label_labelled, Display.name_labelled, labelsIn, Labeller.get?_labels,
    if_pos (List.mem_map_of_mem hi), Option.getD_some]

theorem groupsIn_perm (s : Service) (db : Database) (guard locale : String) (row : Row) :
    (((s.groupsIn db guard locale row).flatMap (·.items)).map (·.toFlat)).Perm
      (s.flatIn db guard locale) :=
  (Display.flat_perm_groups _ _ _).symm

/-- An entry is marked just when its id is one that the role is linked to. -/
theorem checked_of_mem_groupsIn {row : Row} {e : Display.Entry}
    (h : e ∈ (s.groupsIn db guard locale row).flatMap (·.items)) :
    ∃ p ∈ db.store.permissions.rows, p.key = (e.name, guard) ∧
      (e.checked = true ↔ ⟨row.id, p.id⟩ ∈ db.store.links) := by
  obtain ⟨i, hi, rfl⟩ := List.mem_map.mp ((Display.items_groups_perm _ _ _).mem_iff.mp h)
  obtain ⟨p, hp, rfl, rfl⟩ := mem_listed.mp hi
  refine ⟨p, hp, rfl, ?_⟩
  rw [← Store.mem_linked_iff, Display.entry, Display.checked, Option.any_some,
    List.contains_iff_mem]
  exact List.mem_mergeSort

end Entitlements.Web.Service
