import Entitlements.Proofs.Policy
import Entitlements.Proofs.Web.Answers
import Entitlements.Proofs.Web.Session

set_option autoImplicit false

/-!
The screen of a role in a guard that was synced. It shows the permissions of the catalog, each once,
and checks those that the compiler granted to the role: ids come from the store and labels through
a map by name, and both lead back to the names.
-/

namespace Entitlements.Web.Service
variable {s : Service} {guards : Finset String} {guard role locale : String} {db : Database}

namespace Synced

theorem mem_permissions (h : s.Synced guards db) {name : String} :
    (name, guard) ∈ db.store.permissions.keys ↔
      name ∈ s.policy.catalog.names ∧ guard ∈ guards := by
  rw [← Store.mem_permissions_contents, h.contents, Contents.mem_permissions_sync,
    Store.contents_empty]
  simp

theorem names_of_outside (h : s.Synced guards db) (outside : guard ∉ guards) :
    db.store.permissions.namesIn guard = [] := by
  rw [List.eq_nil_iff_forall_not_mem]
  intro name there
  exact outside (h.mem_permissions.mp (Table.mem_namesIn_iff.mp there)).2

variable (h : s.Synced guards db) (inside : guard ∈ guards)
include h inside

theorem mem_roles : (role, guard) ∈ db.store.roles.keys ↔
    role ∈ s.policy.grants.keys ∨ role ∈ s.configuration.superAdmins.names := by
  rw [← Store.mem_roles_contents, h.contents, Contents.mem_roles_sync, Store.contents_empty]
  simp [inside]

theorem mem_links {name : String} : ((role, guard), (name, guard)) ∈ db.store.contents.links ↔
    name ∈ (s.policy.grants.permissions.get? role).getD [] := by
  rw [h.contents, Contents.mem_links_sync, Store.contents_empty, Policy.mem_linksIn,
    RoleGrants.mem_permissions_iff]
  constructor
  · rintro (⟨old, -⟩ | ⟨-, -, asked⟩)
    · exact absurd old (Finset.notMem_empty _)
    · exact asked
  · exact fun asked => .inr ⟨inside, rfl, asked⟩

theorem names_perm : (db.store.permissions.namesIn guard).Perm s.policy.catalog.names := by
  have nodup := Table.nodup_namesIn h.wellFormed.permissions guard
  rw [List.perm_ext_iff_of_nodup nodup s.policy.nodup_names]
  intro name
  rw [Table.mem_namesIn_iff, h.mem_permissions, and_iff_left inside]

end Synced

theorem Synced.names_flatIn_perm (h : s.Synced guards db) (inside : guard ∈ guards)
    (locale : String) :
    ((s.flatIn db guard locale).map (·.name)).Perm s.policy.catalog.names :=
  (Service.names_flatIn_perm s db guard locale).trans (h.names_perm inside)

/-- An id is checked when there is a link, and links are what was granted. -/
theorem Synced.checked_iff (h : s.Synced guards db) (inside : guard ∈ guards) {row : Row}
    (found : db.store.findRole? role guard = some row) {e : Display.Entry}
    (shown : e ∈ (s.groupsIn db guard locale row).flatMap (·.items)) :
    e.checked = true ↔ e.name ∈ (s.policy.grants.permissions.get? role).getD [] := by
  obtain ⟨there, key⟩ := Table.find?_spec found
  obtain ⟨p, hp, named, checked⟩ := checked_of_mem_groupsIn shown
  have linked := Store.mem_links_contents_of_rows h.wellFormed there hp
  rw [key, named] at linked
  exact checked.trans (linked.symm.trans (h.mem_links inside))

/-- The answer to a request for a path with query fields. -/
def fetch (s : Service) (db : Database) (path : List String) (fields : List (String × String)) :
    Response :=
  (s.respond (.ofTarget "GET" (target path fields)) db).1

def screen (s : Service) (db : Database) (guard role locale : String) : Response :=
  s.fetch db ["api", "guards", guard, "permissions"] [("role", role), ("locale", locale)]

/-- The flat list of a guard has the permissions of the catalog with their labels, and the screen of a
role has the same entries with the granted ones checked. -/
structure Shows (s : Service) (db : Database) (guard role locale : String)
    (entries : List Display.Flat) : Prop where
  flat : s.fetch db ["api", "guards", guard, "permissions", "flat"] [("locale", locale)] =
    .json (.array (entries.map Display.Flat.toJson))
  names : (entries.map (·.name)).Perm s.policy.catalog.names
  labels : ∀ e ∈ entries, s.fetch db ["api", "translate"] [("name", e.name), ("locale", locale)] =
    .json (.object [("name", .string e.name), ("label", .string e.label),
      ("locale", .string (s.labeller (some locale)).locale)])
  missing : (s.screen db guard role locale).status = 404 ↔
    role ∉ s.policy.grants.keys ∧ role ∉ s.configuration.superAdmins.names
  grouped : (s.screen db guard role locale).status ≠ 404 → ∃ groups : List Display.Group,
    s.screen db guard role locale = .json (.object [("guard", .string guard),
      ("role", .string role), ("groups", .array (groups.map Display.Group.toJson))]) ∧
    ((groups.flatMap (·.items)).map (·.toFlat)).Perm entries ∧
    ∀ e ∈ groups.flatMap (·.items), (e.checked = true ↔
      e.name ∈ (s.policy.grants.permissions.get? role).getD [])

/-- The translation of a name is asked for under this name, so it must show. -/
theorem Synced.shows (h : s.Synced guards db) (inside : guard ∈ guards) (tidy : s.policy.Tidy)
    (role locale : String) : s.Shows db guard role locale (s.flatIn db guard locale) := by
  have opened : db.access ≠ .closed := by
    rw [h.writable]
    decide
  have names := h.names_flatIn_perm inside locale
  have roles : (role, guard) ∈ db.store.roles.keys ↔ _ := h.mem_roles inside
  have flat : s.fetch db ["api", "guards", guard, "permissions", "flat"] [("locale", locale)] =
      .json (.array ((s.flatIn db guard locale).map Display.Flat.toJson)) := by
    rw [fetch, respond_flatPermissions, settle_of_ok (flatPermissions_of_open opened guard)]
  have labels : ∀ e ∈ s.flatIn db guard locale,
      s.fetch db ["api", "translate"] [("name", e.name), ("locale", locale)] =
        .json (.object [("name", .string e.name), ("label", .string e.label),
          ("locale", .string (s.labeller (some locale)).locale)]) := by
    intro e he
    have visible := tidy.trim_name_ne_empty (names.mem_iff.mp (List.mem_map_of_mem he))
    rw [fetch, respond_translate, translate_of_visible visible, label_of_mem_flatIn he]
  cases found : db.store.findRole? role guard with
  | none =>
    have absent := roles.not.mp (Table.find?_eq_none_iff.mp found)
    have screen : s.screen db guard role locale = .ofFailure (roleMissing role guard) := by
      rw [Service.screen, fetch, respond_permissions,
        settle_of_error (permissions_of_missing opened found)]
    refine ⟨flat, names, labels, ?_, fun there => ?_⟩
    · rw [screen]
      exact iff_of_true rfl (not_or.mp absent)
    · rw [screen] at there
      exact absurd rfl there
  | some row =>
    obtain ⟨there, key⟩ := Table.find?_spec found
    have known := roles.mp (key ▸ List.mem_map_of_mem there)
    have success : 200 ≠ 404 := by decide
    have screen : s.screen db guard role locale = .json (.object [("guard", .string guard),
        ("role", .string role), ("groups", .array
          ((s.groupsIn db guard locale row).map Display.Group.toJson))]) := by
      rw [Service.screen, fetch, respond_permissions,
        settle_of_ok (permissions_of_role opened found)]
    refine ⟨flat, names, labels, ?_, fun _ => ?_⟩
    · rw [screen]
      exact iff_of_false success fun absent => not_or.mpr absent known
    · exact ⟨s.groupsIn db guard locale row, screen, s.groupsIn_perm db guard locale row,
        fun e he => h.checked_iff inside found he⟩

/-- A configuration that was read has tidy tables, so whatever is requested before and since a sync,
its guard shows what was granted. -/
theorem exists_shows_of_read {document : String}
    (read : Configuration.read document = .ok s.configuration) {earlier : List Request}
    {post : Request} {report : SyncReport} (posted : post.method = "POST")
    (answered : (s.respond post (s.after .fresh earlier)).1 = .json report.toJson)
    (later : List Request) (role locale : String) :
    ∃ entries, s.Shows (s.after .fresh (earlier ++ post :: later)) report.guard role locale
      entries := by
  obtain ⟨guards, inside, h⟩ := exists_synced posted answered later
  exact ⟨_, h.shows inside (Configuration.tidy_read read) role locale⟩

end Entitlements.Web.Service
