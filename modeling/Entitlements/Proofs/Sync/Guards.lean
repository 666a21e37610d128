import Entitlements.Proofs.Sync.Contents

set_option autoImplicit false

/-!
Guards as separate namespaces. Permissions and roles of all guards share their tables, and links
carry no guard; still a sync into one guard moves nothing of another. And as long as links are only
taken for roles that the database has handed out, no link leads from one guard into another.
-/

namespace Entitlements

namespace Table
variable {t : Table} {guard other : String}

def rowsIn (t : Table) (guard : String) : List Row := t.rows.filter (·.guard == guard)

theorem mem_rowsIn {r : Row} : r ∈ t.rowsIn guard ↔ r ∈ t.rows ∧ r.guard = guard := by
  rw [rowsIn, List.mem_filter, beq_iff_eq]

theorem rowsIn_offer_of_ne (apart : other ≠ guard) (name : String) :
    (t.offer name guard).rowsIn other = t.rowsIn other := by
  by_cases old : (name, guard) ∈ t.keys
  · rw [rowsIn, rows_offer_of_mem old, rowsIn]
  · have new : (guard == other) = false := beq_eq_false_iff_ne.mpr apart.symm
    rw [rowsIn, rows_offer_of_notMem old, List.filter_append, List.filter_cons_of_neg (by simp [new]),
      List.filter_nil, List.append_nil, rowsIn]

theorem rowsIn_offerAll_of_ne (apart : other ≠ guard) (names : List String) :
    (t.offerAll (names.map (·, guard))).rowsIn other = t.rowsIn other := by
  induction names generalizing t with
  | nil => rfl
  | cons name names ih => rw [List.map_cons, offerAll_cons, ih, rowsIn_offer_of_ne apart]

end Table

namespace Store
variable {s s' s'' : Store} {guard other : String}

/-- The links of the roles of a guard. -/
def linksIn (s : Store) (guard : String) : List Link :=
  s.links.filter fun l => (s.roles.rowsIn guard).any (·.id == l.role)

/-- All that belongs to a guard is the same, ids included. -/
structure SameIn (guard : String) (s s' : Store) : Prop where
  permissions : s'.permissions.rowsIn guard = s.permissions.rowsIn guard
  roles : s'.roles.rowsIn guard = s.roles.rowsIn guard
  links : s'.linksIn guard = s.linksIn guard

theorem SameIn.refl (guard : String) (s : Store) : SameIn guard s s := ⟨rfl, rfl, rfl⟩

theorem SameIn.trans (h : SameIn guard s s') (h' : SameIn guard s' s'') : SameIn guard s s'' :=
  ⟨h'.permissions.trans h.permissions, h'.roles.trans h.roles, h'.links.trans h.links⟩

theorem SameIn.foldl {α : Type} {f : Store → α → Store}
    (evolves : ∀ (s : Store) (a : α), s.Evolves (f s a))
    (step : ∀ (s : Store) (a : α), s.WellFormed → SameIn guard s (f s a)) (h : s.WellFormed)
    (as : List α) : SameIn guard s (as.foldl f s) := by
  induction as generalizing s with
  | nil => exact .refl guard s
  | cons a as ih => exact (step s a h).trans (ih ((evolves s a).wellFormed h))

theorem sameIn_offered (apart : other ≠ guard) (s : Store) (names : List String) :
    SameIn other s (s.offered (names.map (·, guard))) :=
  ⟨Table.rowsIn_offerAll_of_ne apart names, rfl, rfl⟩

theorem sameIn_offerRole (apart : other ≠ guard) (s : Store) (name : String) :
    SameIn other s (s.offerRole name guard) := by
  have roles : (s.roles.offer name guard).rowsIn other = s.roles.rowsIn other :=
    Table.rowsIn_offer_of_ne apart name
  refine ⟨rfl, roles, ?_⟩
  rw [linksIn, offerRole, roles, linksIn]

/-- The links that are replaced are none of a role of the other guard. -/
theorem sameIn_relinked (h : s.WellFormed) {role : Row} (known : role ∈ s.roles.rows)
    (apart : other ≠ role.guard) (names : List String) :
    SameIn other s (s.relinked role names) := by
  refine ⟨rfl, rfl, ?_⟩
  have foreign : (s.roles.rowsIn other).any (·.id == role.id) = false := by
    rw [List.any_eq_false]
    intro r hr same
    obtain ⟨there, inside⟩ := Table.mem_rowsIn.mp hr
    exact apart (inside ▸ congrArg Row.guard (h.roles.eq_of_id there known (beq_iff_eq.mp same)))
  have old : ((s.unlink role.id).links.filter fun l =>
      (s.roles.rowsIn other).any (·.id == l.role)) = s.linksIn other := by
    rw [unlink, List.filter_filter, linksIn]
    apply List.filter_congr
    intro l _
    by_cases own : l.role = role.id <;> simp [own, foreign]
  have new : (((s.grantIds role.guard names).map (Link.mk role.id)).filter fun l =>
      (s.roles.rowsIn other).any (·.id == l.role)) = [] := by
    rw [List.filter_map, List.map_eq_nil_iff, List.filter_eq_nil_iff]
    intro id _
    simp [foreign]
  rw [linksIn, relinked, List.filter_append, old, new, List.append_nil]

theorem sameIn_granted (apart : other ≠ guard) (h : s.WellFormed) (e : String × RoleGrant) :
    SameIn other s (s.granted guard e) := by
  obtain ⟨there, key⟩ := s.roles.rowFor_spec e.1 guard
  have own : (s.roles.rowFor e.1 guard).guard = guard := congrArg Prod.snd key
  have wf := (s.evolves_offerRole e.1 guard).wellFormed h
  exact (sameIn_offerRole apart s e.1).trans (sameIn_relinked wf there (own.symm ▸ apart) _)

theorem sameIn_synced (p : Policy) (admins : SuperAdmins) (apart : other ≠ guard)
    (h : s.WellFormed) : SameIn other s (s.synced p admins guard) := by
  have wf := (s.evolves_offered (p.catalog.names.map (·, guard))).wellFormed h
  have granted := SameIn.foldl (evolves_granted guard) (fun _ e h => sameIn_granted apart h e) wf
    p.grants.toList
  have wf' := (Evolves.foldl (evolves_granted guard) _ p.grants.toList).wellFormed wf
  exact (sameIn_offered apart s _).trans <| granted.trans <|
    .foldl (evolves_offerRole · · guard) (fun s name _ => sameIn_offerRole apart s name) wf' _

end Store

namespace Database
variable {db : Database}

theorem sameIn_step_sync (h : db.store.WellFormed) (p : Policy) (admins : SuperAdmins)
    {guard other : String} (apart : other ≠ Text.trim guard) :
    Store.SameIn other db.store (step db (.sync p admins guard)).store := by
  have writes := writes_step h (.sync p admins guard)
  generalize (step db (.sync p admins guard)).store = s' at writes ⊢
  cases writes with
  | nothing => exact .refl other db.store
  | sync => exact Store.sameIn_synced p admins apart h

/-- The role that a command takes as given. -/
def Command.handle? : Command → Option Row
  | .setRolePermissions role _ => some role
  | _ => none

def Reply.handle? : Reply → Option Row
  | .role row => some row
  | .role? row => row
  | _ => none

/-- The role that a command hands out. -/
def handed? (db : Database) (c : Command) : Option Row :=
  (perform c.action db).1.toOption.bind Reply.handle?

/-- Whether a run takes no role as given that it was not handed before. -/
def honest (db : Database) (given : List Row) : List Command → Bool
  | [] => true
  | c :: cs => c.handle?.all (given.contains ·) &&
      honest (step db c) ((handed? db c).toList ++ given) cs

theorem done_of_handed? {α : Type} {a : Action α} {f : α → Reply} {row : Row}
    (h : (perform (a >>= fun x => pure (f x)) db).1.toOption.bind Reply.handle? = some row) :
    ∃ x db', a db = .ok x db' ∧ (f x).handle? = some row := by
  rw [perform_map] at h
  cases done : a db with
  | ok x db' =>
    rw [perform_of_ok done] at h
    exact ⟨x, db', rfl, h⟩
  | error e db' =>
    rw [perform_of_error done] at h
    cases h

theorem mem_roles_of_handed? {c : Command} {row : Row} (h : handed? db c = some row) :
    row ∈ (step db c).store.roles.rows := by
  cases c with
  | ensureRole name guard =>
    obtain ⟨row', db', done, handle⟩ := done_of_handed? h
    cases handle
    obtain ⟨-, -, found⟩ := findRole?_of_ensureRole done
    rw [step, Command.action, perform_bind_pure, perform_of_ok done]
    exact (Table.find?_spec found).1
  | findRole name guard =>
    obtain ⟨found, db', done, handle⟩ := done_of_handed? h
    rw [step, Command.action, perform_bind_pure, Database.findRole?, perform_query]
    rw [Database.findRole?, query] at done
    split at done
    · cases done
    · cases done
      exact (Table.find?_spec handle).1
  | _ =>
    obtain ⟨x, db', -, handle⟩ := done_of_handed? h
    cases handle

end Database

namespace Contents
variable {c : Contents} {role : String × String} {names : List String}

/-- Every link stays within a guard. -/
def Separate (c : Contents) : Prop := ∀ l ∈ c.links, l.1.2 = l.2.2

theorem Separate.relink (h : c.Separate) : (c.relink role names).Separate := by
  intro l hl
  rcases mem_links_relink.mp hl with ⟨old, -⟩ | ⟨own, -, inside, -⟩
  · exact h l old
  · rw [own, inside]

theorem Separate.sync (h : c.Separate) (p : Policy) (admins : SuperAdmins)
    (guards : Finset String) : (c.sync p admins guards).Separate := by
  intro l hl
  rcases mem_links_sync.mp hl with ⟨old, -⟩ | new
  · exact h l old
  · exact (Policy.mem_linksIn.mp new).2.1.symm

end Contents

namespace Database
variable {db : Database}

theorem Command.Writes.separate {c : Command} {s s' : Store} (writes : c.Writes s s')
    (h : s.WellFormed) (known : ∀ role ∈ c.handle?, role ∈ s.roles.rows)
    (apart : s.contents.Separate) : s'.contents.Separate := by
  cases writes with
  | nothing => exact apart
  | permissions keys =>
    rw [Store.contents_offered h]
    exact apart
  | role name guard =>
    rw [Store.contents_offerRole h]
    exact apart
  | links =>
    rw [Store.contents_relinked h (known _ rfl)]
    exact apart.relink
  | sync p admins =>
    rw [Store.contents_synced p admins h]
    exact apart.sync p admins _

theorem separate_run {given : List Row} {cs : List Command} (h : db.store.WellFormed)
    (known : ∀ role ∈ given, role ∈ db.store.roles.rows) (fair : honest db given cs = true)
    (apart : db.store.contents.Separate) : (run db cs).store.contents.Separate := by
  induction cs generalizing db given with
  | nil => exact apart
  | cons c cs ih =>
    rw [honest, Bool.and_eq_true] at fair
    obtain ⟨first, rest⟩ := fair
    have writes := writes_step h c
    have taken (role : Row) (hr : role ∈ c.handle?) : role ∈ db.store.roles.rows := by
      rw [Option.mem_def.mp hr] at first
      exact known role (by simpa using first)
    refine ih (writes.evolves.wellFormed h) (fun role hr => ?_) rest
      (writes.separate h taken apart)
    rcases List.mem_append.mp hr with new | old
    · exact mem_roles_of_handed? (Option.mem_toList.mp new)
    · exact writes.evolves.roles.mem_rows (known role old)

/-- A sync leaves all rows and links of other guards as they are, whether it is done or fails. And
after a run that links only roles that it was handed, every link joins a role and a permission of
one guard. -/
theorem guards_are_separate (cs : List Command) :
    (∀ p admins guard other, other ≠ Text.trim guard →
      let s := (run fresh cs).store
      let s' := (step (run fresh cs) (.sync p admins guard)).store
      s'.permissions.rowsIn other = s.permissions.rowsIn other ∧
      s'.roles.rowsIn other = s.roles.rowsIn other ∧
      s'.linksIn other = s.linksIn other) ∧
    (honest fresh [] cs = true → ∀ l ∈ (run fresh cs).store.links,
      ∃ r ∈ (run fresh cs).store.roles.rows, ∃ q ∈ (run fresh cs).store.permissions.rows,
        l = ⟨r.id, q.id⟩ ∧ r.guard = q.guard) := by
  have wf := wellFormed_run cs
  constructor
  · intro p admins guard other apart
    have same := sameIn_step_sync wf p admins apart
    exact ⟨same.permissions, same.roles, same.links⟩
  · intro fair l hl
    have apart : (run fresh cs).store.contents.Separate :=
      separate_run Store.wellFormed_empty (fun _ hr => absurd hr List.not_mem_nil) fair
        (fun _ hr => absurd hr (Finset.notMem_empty _))
    obtain ⟨r, hr, q, hq, rfl⟩ := wf.exists_rows hl
    exact ⟨r, hr, q, hq, rfl, apart _ ((Store.mem_links_contents_of_rows wf hr hq).mpr hl)⟩

/-- Two guards that have a role and a permission of one name. -/
theorem guards_are_separate_editor :
    let editor : List Command := [.upsert [("read", "web"), ("read", "api")],
      .ensureRole "editor" "api", .findRole "editor" "api",
      .setRolePermissions ⟨1, "editor", "api"⟩ ["read"]]
    let p : Policy := ⟨∅, .ofList [("posts", ["read"])], .ofList [("editor", .scalar "*")]⟩
    (step (run fresh editor) (.sync p .standard " web ")).store.linksIn "api" = [⟨1, 2⟩] ∧
      ∀ l ∈ (run fresh editor).store.links, ∃ r ∈ (run fresh editor).store.roles.rows,
        ∃ q ∈ (run fresh editor).store.permissions.rows, l = ⟨r.id, q.id⟩ ∧ r.guard = q.guard := by
  intro editor p
  obtain ⟨syncs, links⟩ := guards_are_separate editor
  have same := (syncs p .standard " web " "api" (by decide)).2.2
  exact ⟨same.trans (by decide +kernel), links (by decide +kernel)⟩

end Database

end Entitlements
