import Entitlements.Proofs.Sync.Contents

set_option autoImplicit false

/-!
Syncs one after the other. The links of a role that a sync leaves are those that the policy grants;
only a role that the policy does not define may have links from before. A further sync of the same
policy finds everything in place and moves no row and no link.
-/

namespace Entitlements.Database
variable {db db' : Database} {p : Policy} {admins : SuperAdmins} {guard name : String}
  {report : SyncReport}

/-- A link is granted, or it was there before and its role is not defined. -/
theorem link_of_sync (wf : db.store.WellFormed)
    (done : sync p admins guard db = .ok report db') {l : Link} (hl : l ∈ db'.store.links)
    {r : Row} (hr : r ∈ db'.store.roles.rows) (own : r.id = l.role)
    (inside : r.guard = Text.trim guard) :
    (∃ e ∈ p.grants.toList, e.1 = r.name ∧ ∃ q ∈ db'.store.permissions.rows,
      q.id = l.permission ∧ q.guard = Text.trim guard ∧ q.name ∈ e.2.permissions) ∨
    (r.name ∉ p.grants.keys ∧ l ∈ db.store.links) := by
  obtain ⟨-, evolves, contents⟩ := contents_of_sync wf done
  have wf' := evolves.wellFormed wf
  obtain ⟨r', hr', q, hq, rfl⟩ := wf'.exists_rows hl
  obtain rfl := wf'.roles.eq_of_id hr hr' own
  have named := (Store.mem_links_contents_of_rows wf' hr hq).mpr hl
  rw [contents, Contents.mem_links_sync, Policy.mem_linksIn, Finset.mem_singleton] at named
  rcases named with ⟨old, other⟩ | ⟨-, same, e, he, role, granted⟩
  · refine .inr ⟨fun known => other ⟨known, inside⟩, ?_⟩
    obtain ⟨r₀, hr₀, q₀, hq₀, linked, keys⟩ := Store.mem_links_contents.mp old
    obtain ⟨role, permission⟩ := Prod.mk.inj keys
    rw [← wf'.roles.eq_of_key (evolves.roles.mem_rows hr₀) hr role,
      ← wf'.permissions.eq_of_key (evolves.permissions.mem_rows hq₀) hq permission]
    exact linked
  · exact .inl ⟨e, he, role, q, hq, rfl, same.trans inside, granted⟩

theorem superAdmin_of_rolesProcessed
    (marked : (reportOf p admins guard).rolesProcessed.get? name = some .superAdmin) :
    name ∈ admins.names ∧ name ∉ p.grants.keys := by
  rw [OrderedMap.get?_eq_some_iff, toList_rolesProcessed] at marked
  simpa using marked

/-- After a sync every link of a role of the guard is one that the policy grants, or it was there
before and the policy does not define the role. A role that the report marks as super admin is there,
and it has no links if the sync made it. -/
theorem links_after_sync (cs : List Command) (p : Policy) (admins : SuperAdmins) (guard : String)
    (report : SyncReport) (db' : Database)
    (done : sync p admins guard (run fresh cs) = .ok report db') :
    let s := (run fresh cs).store
    let s' := db'.store
    let h := Text.trim guard
    (∀ l ∈ s'.links, ∀ r ∈ s'.roles.rows, r.id = l.role → r.guard = h →
      (∃ e ∈ p.grants.toList, e.1 = r.name ∧ ∃ q ∈ s'.permissions.rows,
        q.id = l.permission ∧ q.guard = h ∧ q.name ∈ e.2.permissions) ∨
      (r.name ∉ p.grants.keys ∧ l ∈ s.links)) ∧
    ∀ name, report.rolesProcessed.get? name = some .superAdmin →
      ∃ r, s'.findRole? name h = some r ∧
        (s.findRole? name h = none → s'.linked r.id = []) := by
  have wf : (run fresh cs).store.WellFormed := wellFormed_run cs
  generalize run fresh cs = db at wf done ⊢
  obtain ⟨rfl, evolves, contents⟩ := contents_of_sync wf done
  refine ⟨fun l hl r hr => link_of_sync wf done hl hr, fun name marked => ?_⟩
  obtain ⟨supers, undefined⟩ := superAdmin_of_rolesProcessed marked
  have made : (name, Text.trim guard) ∈ db'.store.roles.keys := by
    rw [← Store.mem_roles_contents, contents]
    simp [Contents.sync, supers]
  obtain ⟨r, found⟩ := Table.exists_find? made
  obtain ⟨hr, key⟩ := Table.find?_spec found
  obtain ⟨rfl, inside⟩ := Prod.mk.inj key
  refine ⟨r, found, fun missing => List.eq_nil_iff_forall_not_mem.mpr fun id linked => ?_⟩
  rcases link_of_sync wf done (Store.mem_linked_iff.mp linked) hr rfl inside with
    ⟨e, he, role, -⟩ | ⟨-, old⟩
  · exact undefined (role ▸ List.mem_map_of_mem he)
  · obtain ⟨r₀, hr₀, same⟩ := Table.hasId_iff.mp (wf.joined _ old).1
    have wf' := evolves.wellFormed wf
    obtain rfl := wf'.roles.eq_of_id (evolves.roles.mem_rows hr₀) hr same
    exact Table.find?_eq_none_iff.mp missing (key ▸ List.mem_map_of_mem hr₀)

/-- A role that only an earlier policy defined, and a super admin role that the sync makes. -/
theorem links_after_sync_owner :
    let posts : ItemTable := .ofList [("posts", ["read"])]
    let earlier : Policy := ⟨posts, ∅, .ofList [("editor", .scalar "*")]⟩
    let db := run fresh [.sync earlier (.ofList []) "web"]
    ∃ report db', sync ⟨posts, ∅, ∅⟩ (.single "owner") " web " db = .ok report db' ∧
      (⟨1, 1⟩ : Link) ∈ db.store.links ∧
      ∃ r, db'.store.findRole? "owner" "web" = some r ∧ db'.store.linked r.id = [] := by
  intro posts earlier db
  have writable : db = ⟨db.store, .writable⟩ := by decide +kernel
  have done := sync_of_writable (wellFormed_run [.sync earlier (.ofList []) "web"]).permissions
    ⟨posts, ∅, ∅⟩ (.single "owner") (show Text.trim " web " ≠ "" by decide)
  refine ⟨_, _, writable ▸ done, ?_⟩
  obtain ⟨links, supers⟩ := links_after_sync [.sync earlier (.ofList []) "web"] ⟨posts, ∅, ∅⟩
    (.single "owner") " web " _ _ (writable ▸ done)
  constructor
  · rcases links ⟨1, 1⟩ (by decide +kernel) ⟨1, "editor", "web"⟩ (by decide +kernel) rfl
      (by decide) with ⟨e, he, -⟩ | ⟨-, old⟩
    · exact absurd he List.not_mem_nil
    · exact old
  · obtain ⟨r, found, made⟩ := supers "owner" (by decide +kernel)
    exact ⟨r, found, made (by decide +kernel)⟩

/-- A role that an earlier policy defined keeps its links when the policy defines it no more. That it
is a super admin role by then changes nothing. -/
theorem dropped_role_keeps_links :
    (¬ ∀ (history : List (Policy × SuperAdmins × String)) (p : Policy) (admins : SuperAdmins)
        (guard : String) (report : SyncReport) (db' : Database),
      sync p admins guard (run fresh (history.map fun e => .sync e.1 e.2.1 e.2.2)) =
        .ok report db' →
      ∀ l ∈ db'.store.links, ∀ r ∈ db'.store.roles.rows, r.id = l.role →
        r.guard = Text.trim guard → ∃ e ∈ p.grants.toList, e.1 = r.name ∧
          ∃ q ∈ db'.store.permissions.rows, q.id = l.permission ∧ q.name ∈ e.2.permissions) ∧
    ¬ ∀ (history : List (Policy × SuperAdmins × String)) (p : Policy) (admins : SuperAdmins)
        (guard : String) (report : SyncReport) (db' : Database),
      sync p admins guard (run fresh (history.map fun e => .sync e.1 e.2.1 e.2.2)) =
        .ok report db' →
      ∀ r ∈ db'.store.roles.rows, r.guard = Text.trim guard →
        report.rolesProcessed.get? r.name = some .superAdmin → db'.store.linked r.id = [] := by
  let posts : ItemTable := .ofList [("posts", ["read"])]
  let earlier : Policy := ⟨posts, ∅, .ofList [("editor", .scalar "*")]⟩
  have first : run fresh [.sync earlier (.ofList []) "web"] =
      ⟨⟨⟨[⟨1, "read posts", "web"⟩], 1⟩, ⟨[⟨1, "editor", "web"⟩], 1⟩, [⟨1, 1⟩]⟩, .writable⟩ := by
    decide +kernel
  have second (admins : SuperAdmins) := sync_of_writable
    (wellFormed_run [.sync earlier (.ofList []) "web"]).permissions ⟨posts, ∅, ∅⟩ admins
    (show Text.trim "web" ≠ "" by decide)
  rw [first] at second
  constructor <;> intro always
  · have left := always [(earlier, .ofList [], "web")] ⟨posts, ∅, ∅⟩ (.ofList []) "web" _ _
      (first ▸ second (.ofList []))
    obtain ⟨e, he, -⟩ := left ⟨1, 1⟩ (by decide +kernel) ⟨1, "editor", "web"⟩ (by decide +kernel)
      rfl (by decide)
    exact absurd he List.not_mem_nil
  · have bare := always [(earlier, .ofList [], "web")] ⟨posts, ∅, ∅⟩ (.single "editor") "web" _ _
      (first ▸ second (.single "editor")) ⟨1, "editor", "web"⟩ (by decide +kernel) (by decide)
      (by decide +kernel)
    exact absurd bare (by decide +kernel)

theorem step_sync_of_writable {s : Store} (h : s.WellFormed) (p : Policy) (admins : SuperAdmins)
    (guarded : Text.trim guard ≠ "") :
    step ⟨s, .writable⟩ (.sync p admins guard) =
      ⟨s.synced p admins (Text.trim guard), .writable⟩ := by
  rw [step, Command.action, perform_bind_pure,
    perform_of_ok (sync_of_writable h.permissions p admins guarded)]

/-- Once the contents are what the sync makes of them, it leaves them so. -/
theorem run_replicate_sync {s : Store} (h : s.WellFormed) (guarded : Text.trim guard ≠ "")
    (synced : s.contents.sync p admins {Text.trim guard} = s.contents) (n : Nat) :
    ∃ s', run ⟨s, .writable⟩ (List.replicate n (.sync p admins guard)) = ⟨s', .writable⟩ ∧
      s.Evolves s' ∧ s'.contents = s.contents := by
  induction n generalizing s with
  | zero => exact ⟨s, rfl, .refl s, rfl⟩
  | succ n ih =>
    have evolves := s.evolves_synced p admins (Text.trim guard)
    have same : (s.synced p admins (Text.trim guard)).contents = s.contents := by
      rw [Store.contents_synced p admins h, synced]
    obtain ⟨s', ran, later, kept⟩ := ih (evolves.wellFormed h) (by rw [same, synced])
    refine ⟨s', ?_, evolves.trans later, kept.trans same⟩
    rw [List.replicate_succ, run_cons, step_sync_of_writable h p admins guarded, ran]

/-- On any store that a run leaves open, a sync into a guard that is not blank may be repeated as
often as one likes. Each time the report is the same, and all rows and links are those that the first
sync left. -/
theorem sync_converges (cs : List Command) (p : Policy) (admins : SuperAdmins) (guard : String)
    (opened : (run fresh cs).access ≠ .closed) (visible : Text.isBlank guard = false) :
    ∃ report db₁, sync p admins guard (run fresh cs) = .ok report db₁ ∧
      ∀ n, ∃ db₂, sync p admins guard (run db₁ (List.replicate n (.sync p admins guard))) =
        .ok report db₂ ∧ db₁.store.SameRows db₂.store ∧ db₂.access = db₁.access := by
  have wf := wellFormed_run cs
  have writable := writable_run opened
  generalize run fresh cs = db at wf writable ⊢
  obtain ⟨s, access⟩ := db
  subst writable
  have guarded : Text.trim guard ≠ "" := by simp [Text.trim_eq_empty_iff, visible]
  have evolves := s.evolves_synced p admins (Text.trim guard)
  have wf₁ := evolves.wellFormed wf
  have synced : (s.synced p admins (Text.trim guard)).contents.sync p admins {Text.trim guard} =
      (s.synced p admins (Text.trim guard)).contents := by
    rw [Store.contents_synced p admins wf, Contents.sync_sync, Finset.union_self]
  refine ⟨_, _, sync_of_writable wf.permissions p admins guarded, fun n => ?_⟩
  obtain ⟨s', ran, later, kept⟩ := run_replicate_sync wf₁ guarded synced n
  have wf' := later.wellFormed wf₁
  have last := s'.evolves_synced p admins (Text.trim guard)
  have same := (Store.contents_synced p admins wf' (Text.trim guard)).trans (kept ▸ synced)
  rw [ran]
  exact ⟨_, sync_of_writable wf'.permissions p admins guarded,
    (later.trans last).sameRows wf₁ (same.trans kept), rfl⟩

/-- A role that is defined and is a super admin role. -/
theorem sync_converges_admin :
    ∃ report db₁, sync
        ⟨.ofList [("posts", ["read", "update"])], ∅, .ofList [("admin", .scalar "*")]⟩
        .standard " web " (run fresh [.ensureRole "admin" "api"]) = .ok report db₁ ∧
      ∃ db₂, sync
        ⟨.ofList [("posts", ["read", "update"])], ∅, .ofList [("admin", .scalar "*")]⟩
        .standard " web " db₁ = .ok report db₂ ∧ db₁.store.SameRows db₂.store := by
  obtain ⟨report, db₁, done, again⟩ := sync_converges [.ensureRole "admin" "api"]
    ⟨.ofList [("posts", ["read", "update"])], ∅, .ofList [("admin", .scalar "*")]⟩
    .standard " web " (by decide) (by decide)
  obtain ⟨db₂, done', same, -⟩ := again 0
  exact ⟨report, db₁, done, db₂, done', same⟩

end Entitlements.Database
