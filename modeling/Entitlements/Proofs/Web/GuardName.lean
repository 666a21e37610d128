import Entitlements.Proofs.Json.RoundTrip
import Entitlements.Proofs.Web.Screen

set_option autoImplicit false

/-!
What a guard is called. A sync goes by the name without its outer blanks, a listing by the name as
the path has it. So what a sync wrote is listed under the trimmed name and under no other.
-/

namespace Entitlements.Web.Service
open Text (utf8 decodeUtf8? percentDecode)
variable {s : Service} {db : Database} {raw : List UInt8} {guard : String}

/-- The paths of the two listings, with the guard as it is written there. -/
def permissionsPath (guard : List UInt8) : List (List UInt8) :=
  [utf8 "api", utf8 "guards", guard, utf8 "permissions"]

def flatPath (guard : List UInt8) : List (List UInt8) := permissionsPath guard ++ [utf8 "flat"]

def localeFields (locale : Option String) : List (String × String) :=
  locale.toList.map ("locale", ·)

/-- Both listings of a guard, as it is written in a path, have these names. -/
structure Lists (s : Service) (db : Database) (raw : List UInt8) (locale : Option String)
    (names : List String) : Prop where
  grouped : ∃ guard, ∃ groups : List Display.Group,
    (s.respond ⟨"GET", permissionsPath raw, localeFields locale⟩ db).1 =
      .json (.object [("guard", .string guard), ("role", .null),
        ("groups", .array (groups.map Display.Group.toJson))]) ∧
      ((groups.flatMap (·.items)).map (·.name)).Perm names
  flat : ∃ entries : List Display.Flat,
    (s.respond ⟨"GET", flatPath raw, localeFields locale⟩ db).1 =
      .json (.array (entries.map Display.Flat.toJson)) ∧ (entries.map (·.name)).Perm names

theorem Lists.of_perm {locale : Option String} {names names' : List String}
    (h : s.Lists db raw locale names) (moved : names.Perm names') :
    s.Lists db raw locale names' := by
  obtain ⟨⟨guard, groups, screen, grouped⟩, entries, listing, flat⟩ := h
  exact ⟨⟨guard, groups, screen, grouped.trans moved⟩, entries, listing, flat.trans moved⟩

theorem eq_nil_of_render {entries : List Display.Flat}
    (same : (Json.array (entries.map Display.Flat.toJson)).render = (Json.array []).render) :
    entries = [] := by
  cases entries with
  | nil => rfl
  | cons e es =>
    have text := String.ofList_injective same
    simp [Json.print, Json.printItems_cons, Json.printItems, Display.Flat.toJson] at text

/-- A flat list without entries is one without names. -/
theorem Lists.eq_nil {locale : Option String} {names : List String}
    (h : s.Lists db raw locale names) (nothing : s.Lists db raw locale []) : names = [] := by
  obtain ⟨entries, shown, named⟩ := h.flat
  obtain ⟨none, empty, unnamed⟩ := nothing.flat
  obtain rfl := List.map_eq_nil_iff.mp unnamed.eq_nil
  obtain rfl := eq_nil_of_render (Response.json_inj (shown.symm.trans empty))
  exact named.symm.eq_nil

theorem withFields_localeFields (locale : Option String)
    (f : (String → Option String) → Action Response) :
    withFields [] ["role", "locale"] (localeFields locale) f =
      f fun k => (localeFields locale).lookup k := by
  cases locale <;> rfl

theorem respond_permissionsPath (decoded : decodeUtf8? (percentDecode raw) = some guard)
    (locale : Option String) (db : Database) :
    s.respond ⟨"GET", permissionsPath raw, localeFields locale⟩ db =
      settle (s.permissions guard none locale) db := by
  have routed : Route.ofPath? (permissionsPath raw) = some (.permissions raw) := rfl
  rw [respond_routed routed rfl, answer, withGuard_of_decoded decoded, withFields_localeFields]
  cases locale <;> rfl

theorem respond_flatPath (decoded : decodeUtf8? (percentDecode raw) = some guard)
    (locale : Option String) (db : Database) :
    s.respond ⟨"GET", flatPath raw, localeFields locale⟩ db =
      settle (s.flatPermissions guard locale) db := by
  have routed : Route.ofPath? (flatPath raw) = some (.flatPermissions raw) := rfl
  rw [respond_routed routed rfl, answer, withGuard_of_decoded decoded, withFields_localeFields]
  cases locale <;> rfl

theorem lists_of_decoded (opened : db.access ≠ .closed)
    (decoded : decodeUtf8? (percentDecode raw) = some guard) (locale : Option String) :
    s.Lists db raw locale (db.store.permissions.namesIn guard) := by
  constructor
  · have answered : s.permissions guard none locale db = .ok _ db :=
      Database.bind_of_ok (storedItems_of_open opened guard)
    rw [respond_permissionsPath decoded, settle_of_ok answered]
    have shown := (Display.items_groups_perm
      (some ((s.labeller locale).labels ((listed db guard).map (·.name)))) []
      (listed db guard)).map (·.name)
    rw [List.map_map] at shown
    exact ⟨guard, _, rfl, shown.trans (names_listed_perm db guard)⟩
  · have answered : s.flatPermissions guard locale db = .ok _ db :=
      Database.bind_of_ok (storedItems_of_open opened guard)
    rw [respond_flatPath decoded, settle_of_ok answered]
    exact ⟨_, rfl, (Display.names_flat_perm _ _).trans (names_listed_perm db guard)⟩

theorem respond_syncPath (s : Service) (raw : List UInt8) (query : List (String × String))
    (db : Database) : s.respond ⟨"POST", syncPath raw, query⟩ db =
      settle (withGuard raw s.sync) db := rfl

/-- A sync that succeeds decodes its guard, and leaves the catalog in the guard of the trimmed
name. -/
theorem synced_of_posted {query : List (String × String)}
    (posted : (s.respond ⟨"POST", syncPath raw, query⟩ .fresh).1.status = 200) :
    ∃ guard, decodeUtf8? (percentDecode raw) = some guard ∧
      s.Synced {Text.trim guard} (s.respond ⟨"POST", syncPath raw, query⟩ .fresh).2 := by
  rw [respond_syncPath] at posted ⊢
  cases decoded : decodeUtf8? (percentDecode raw) with
  | none =>
    have refused : 400 ≠ 200 := by decide
    rw [withGuard, decoded] at posted
    exact absurd posted refused
  | some guard =>
    rw [withGuard_of_decoded decoded] at posted ⊢
    refine ⟨guard, rfl, ?_⟩
    rcases s.synced_fresh.settle_sync guard with ⟨report, db', named, h, answered⟩ | ⟨f, failed⟩
    · rw [named, Finset.empty_union] at h
      rwa [answered]
    · rw [failed] at posted
      exact absurd posted (Response.status_ofFailure_ne f)

theorem Synced.lists_by_name {name : String} (h : s.Synced {name} db) (raw : List UInt8)
    (guard : String) (decoded : decodeUtf8? (percentDecode raw) = some guard)
    (locale : Option String) :
    s.Lists db raw locale (if guard = name then s.policy.catalog.names else []) := by
  have opened : db.access ≠ .closed := by
    rw [h.writable]
    decide
  have lists := lists_of_decoded (s := s) opened decoded locale
  split
  · rename_i inside
    exact lists.of_perm (h.names_perm (Finset.mem_singleton.mpr inside))
  · rename_i outside
    rwa [h.names_of_outside (Finset.mem_singleton.not.mpr outside)] at lists

/-- After a sync that succeeds on a fresh database, a path lists the catalog when the guard that it
decodes to is the trimmed name of the guard that was synced, and nothing otherwise. So the path of
the sync lists what was synced just when its guard has no outer blanks or the catalog no names. -/
theorem listings_go_by_trimmed_name (s : Service) (raw : List UInt8)
    (query : List (String × String))
    (posted : (s.respond ⟨"POST", syncPath raw, query⟩ .fresh).1.status = 200) :
    let db := (s.respond ⟨"POST", syncPath raw, query⟩ .fresh).2
    let names := s.policy.catalog.names
    ∃ guard, decodeUtf8? (percentDecode raw) = some guard ∧
      (∀ raw' guard', decodeUtf8? (percentDecode raw') = some guard' → ∀ locale,
        s.Lists db raw' locale (if guard' = Text.trim guard then names else [])) ∧
      ((∀ locale, s.Lists db raw locale names) ↔ Text.trim guard = guard ∨ names = []) := by
  intro db names
  obtain ⟨guard, decoded, h⟩ := synced_of_posted posted
  have lists := h.lists_by_name
  refine ⟨guard, decoded, lists, fun all => ?_, fun agrees locale => ?_⟩
  · by_contra! apart
    have nothing := lists raw guard decoded none
    rw [if_neg apart.1.symm] at nothing
    exact apart.2 ((all none).eq_nil nothing)
  · have own : s.Lists db raw locale (if guard = Text.trim guard then names else []) :=
      lists raw guard decoded locale
    rcases agrees with trimmed | empty
    · rwa [if_pos trimmed.symm] at own
    · rw [empty, ite_self] at own
      rwa [empty]

/-- A guard between blanks, one of them an ideographic space. -/
theorem listings_go_by_trimmed_name_padded :
    let s : Service := ⟨⟨⟨.ofResources (.mapping [(.name "posts", .list [.scalar "read"])]), ∅,
      ∅⟩, .standard, "web"⟩, ∅, "en", "en"⟩
    let padded := utf8 "%20web%E3%80%80"
    let post : Request := ⟨"POST", syncPath padded, []⟩
    (s.respond post .fresh).1.status = 200 ∧
      s.Lists (s.respond post .fresh).2 padded (some "de") [] ∧
      s.Lists (s.respond post .fresh).2 (utf8 "web") none ["read posts"] := by
  intro s padded post
  have status : (s.respond post .fresh).1.status = 200 := by
    subst s padded post
    rfl
  obtain ⟨guard, decoded, lists, -⟩ := listings_go_by_trimmed_name s padded [] status
  have spelt : decodeUtf8? (percentDecode padded) = some " web\u3000" := by decide +kernel
  have trimmed : Text.trim " web\u3000" = "web" := by decide +kernel
  cases spelt.symm.trans decoded
  rw [trimmed] at lists
  have named : decodeUtf8? (percentDecode (utf8 "web")) = some "web" := by decide +kernel
  have catalog : s.policy.catalog.names = ["read posts"] := by decide +kernel
  refine ⟨status, ?_, ?_⟩
  · exact lists padded " web\u3000" spelt (some "de")
  · exact catalog ▸ lists (utf8 "web") "web" named none

/-- A path with a blank does not list what it synced. -/
theorem padded_guard_lists_nothing :
    ¬ ∀ (s : Service) (raw : List UInt8) (query : List (String × String)),
      (s.respond ⟨"POST", syncPath raw, query⟩ .fresh).1.status = 200 →
      ∀ locale, s.Lists (s.respond ⟨"POST", syncPath raw, query⟩ .fresh).2 raw locale
        s.policy.catalog.names := by
  intro all
  let s : Service := ⟨⟨⟨.ofResources (.mapping [(.name "posts", .list [.scalar "read"])]), ∅,
    ∅⟩, .standard, "web"⟩, ∅, "en", "en"⟩
  let padded := utf8 "%20web"
  have status : (s.respond ⟨"POST", syncPath padded, []⟩ .fresh).1.status = 200 := by
    subst s padded
    rfl
  obtain ⟨guard, decoded, h⟩ := synced_of_posted status
  have spelt : decodeUtf8? (percentDecode padded) = some " web" := by decide +kernel
  cases spelt.symm.trans decoded
  have other : " web" ≠ Text.trim " web" := by decide +kernel
  have nothing := h.lists_by_name padded " web" spelt none
  rw [if_neg other] at nothing
  have names : s.policy.catalog.names ≠ [] := by decide +kernel
  exact names ((all s padded [] status none).eq_nil nothing)

end Entitlements.Web.Service
