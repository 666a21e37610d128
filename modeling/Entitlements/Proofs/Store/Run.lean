import Entitlements.Proofs.Store.Actions

set_option autoImplicit false

/-!
Runs of commands. A step closes the database or changes its store by well-formed growth, also when
the command fails; so the invariant holds after every run, and rows stay as they were made.
-/

namespace Entitlements.Database
variable {α β : Type} {a : Action α} {db db' : Database}

theorem perform_of_ok {x : α} (h : a db = .ok x db') : perform a db = (.ok x, db') := by
  rw [perform, h]

theorem perform_of_error {e : Failure} (h : a db = .error e db') :
    perform a db = (.error e, db') := by
  rw [perform, h]

theorem perform_map (a : Action α) (f : α → β) (db : Database) :
    perform (a >>= fun x => pure (f x)) db = ((perform a db).1.map f, (perform a db).2) := by
  cases h : a db with
  | ok x db' =>
    have replied : (a >>= fun x => pure (f x)) db = .ok (f x) db' := bind_of_ok h
    rw [perform_of_ok h, perform_of_ok replied]
    rfl
  | error e db' =>
    rw [perform_of_error h, perform_of_error (bind_of_error h)]
    rfl

/-- What is made of the answer does not matter to the database. -/
theorem perform_bind_pure (a : Action α) (f : α → β) (db : Database) :
    (perform (a >>= fun x => pure (f x)) db).2 = (perform a db).2 := by
  rw [perform_map]

theorem perform_query (f : Store → α) (db : Database) : (perform (query f) db).2 = db := by
  by_cases closed : db.access = .closed
  · rw [perform_of_error (if_pos closed)]
  · rw [perform_of_ok (if_neg closed)]

theorem step_of_locked (locked : db.access ≠ .writable) (c : Command) :
    step db c = db ∨ step db c = { db with access := .closed } := by
  unfold step
  cases c with
  | upsert ps =>
    left
    rw [Command.action, perform_bind_pure]
    have written := upsert_of_locked locked ps
    split at written
    · rw [perform_of_ok written]
    · rw [perform_of_error written]
  | ensureRole name guard =>
    left
    rw [Command.action, perform_bind_pure,
      perform_of_error (ensureRole_of_locked locked name guard)]
  | setRolePermissions role names =>
    left
    rw [Command.action, perform_bind_pure, setRolePermissions,
      perform_of_error (transaction_of_locked locked _)]
  | sync p admins guard =>
    left
    rw [Command.action, perform_bind_pure]
    by_cases blank : Text.trim guard = ""
    · rw [perform_of_error (sync_of_blank p admins blank db)]
    · have synced := sync_of_locked locked p admins blank
      split at synced
      · rw [perform_of_ok synced]
      · rw [perform_of_error synced]
  | close => exact .inr rfl
  | _ =>
    left
    rw [Command.action, perform_bind_pure]
    exact perform_query _ db

/-- What a command may do to a store that is open. -/
inductive Command.Writes : Command → Store → Store → Prop
  | nothing (c : Command) (s : Store) : Writes c s s
  | permissions (keys : List (String × String)) (s : Store) : Writes (.upsert keys) s (s.offered keys)
  | role (name guard : String) (s : Store) :
    Writes (.ensureRole name guard) s (s.offerRole name guard)
  | links {role : Row} {names : List String} {s : Store}
    (may : s.roles.hasId role.id = true ∨ s.grantIds role.guard names = []) :
    Writes (.setRolePermissions role names) s (s.relinked role names)
  | sync (p : Policy) (admins : SuperAdmins) {guard : String} (guarded : Text.trim guard ≠ "")
    (s : Store) : Writes (.sync p admins guard) s (s.synced p admins (Text.trim guard))

theorem Command.Writes.evolves {c : Command} {s s' : Store} (h : c.Writes s s') :
    s.Evolves s' := by
  cases h with
  | nothing => exact .refl s
  | permissions keys => exact s.evolves_offered keys
  | role name guard => exact s.evolves_offerRole name guard
  | links may => exact Store.evolves_relinked may
  | sync p admins guarded => exact s.evolves_synced p admins _

theorem step_of_writable {s : Store} (h : s.WellFormed) (c : Command) :
    (∃ s', c.Writes s s' ∧ step ⟨s, .writable⟩ c = ⟨s', .writable⟩) ∨
      step ⟨s, .writable⟩ c = ⟨s, .closed⟩ := by
  unfold step
  cases c with
  | upsert ps =>
    refine .inl ⟨_, .permissions ps s, ?_⟩
    rw [Command.action, perform_bind_pure, perform_of_ok (upsert_of_writable ps)]
  | ensureRole name guard =>
    refine .inl ⟨_, .role name guard s, ?_⟩
    rw [Command.action, perform_bind_pure, perform_of_ok (ensureRole_of_writable name guard)]
  | setRolePermissions role names =>
    rw [Command.action, perform_bind_pure]
    have linked := setRolePermissions_of_writable h.permissions role names
    split at linked
    · exact .inl ⟨s, .nothing _ s, by rw [perform_of_error linked]⟩
    · rename_i may
      have known : s.roles.hasId role.id = true ∨ s.grantIds role.guard names = [] := by grind
      exact .inl ⟨_, .links known, by rw [perform_of_ok linked]⟩
  | sync p admins guard =>
    rw [Command.action, perform_bind_pure]
    by_cases blank : Text.trim guard = ""
    · exact .inl ⟨s, .nothing _ s, by rw [perform_of_error (sync_of_blank p admins blank _)]⟩
    · refine .inl ⟨_, .sync p admins blank s, ?_⟩
      rw [perform_of_ok (sync_of_writable h.permissions p admins blank)]
  | close => exact .inr rfl
  | _ =>
    refine .inl ⟨s, .nothing _ s, ?_⟩
    rw [Command.action, perform_bind_pure]
    exact perform_query _ _

/-- All that a step can do. -/
theorem step_cases (h : db.store.WellFormed) (c : Command) :
    (∃ s, c.Writes db.store s ∧ step db c = { db with store := s }) ∨
      step db c = { db with access := .closed } := by
  by_cases writable : db.access = .writable
  · obtain ⟨s, access⟩ := db
    subst writable
    exact step_of_writable h c
  · exact (step_of_locked writable c).imp_left fun same => ⟨db.store, .nothing c _, same⟩

theorem writes_step (h : db.store.WellFormed) (c : Command) :
    c.Writes db.store (step db c).store := by
  rcases step_cases h c with ⟨s, writes, stepped⟩ | closed
  · rw [stepped]
    exact writes
  · rw [closed]
    exact .nothing c _

theorem evolves_step (h : db.store.WellFormed) (c : Command) :
    db.store.Evolves (step db c).store := (writes_step h c).evolves

theorem run_cons (db : Database) (c : Command) (cs : List Command) :
    run db (c :: cs) = run (step db c) cs := rfl

theorem evolves_run (h : db.store.WellFormed) (cs : List Command) :
    db.store.Evolves (run db cs).store := by
  induction cs generalizing db with
  | nil => exact .refl _
  | cons c cs ih =>
    have stepped := evolves_step h c
    exact stepped.trans (ih (stepped.wellFormed h))

theorem wellFormed_run (cs : List Command) : (run fresh cs).store.WellFormed :=
  (evolves_run Store.wellFormed_empty cs).wellFormed Store.wellFormed_empty

/-- A run keeps what may be done or ends closed. -/
theorem access_run (h : db.store.WellFormed) (cs : List Command) :
    (run db cs).access = db.access ∨ (run db cs).access = .closed := by
  induction cs generalizing db with
  | nil => exact .inl rfl
  | cons c cs ih =>
    rcases step_cases h c with ⟨s, -, stepped⟩ | closed
    · have later := ih ((evolves_step h c).wellFormed h)
      rw [stepped] at later
      rw [run_cons, stepped]
      exact later
    · have later := ih ((evolves_step h c).wellFormed h)
      rw [closed, or_self] at later
      rw [run_cons, closed]
      exact .inr later

theorem writable_run {cs : List Command} (opened : (run fresh cs).access ≠ .closed) :
    (run fresh cs).access = .writable :=
  (access_run Store.wellFormed_empty cs).resolve_right opened

theorem ensureRole_eq_ok {name guard : String} {row : Row}
    (h : ensureRole name guard db = .ok row db') :
    db.access = .writable ∧ row = db.store.roles.rowFor name guard ∧
      db' = { db with store := db.store.offerRole name guard } := by
  by_cases writable : db.access = .writable
  · obtain ⟨s, access⟩ := db
    subst writable
    rw [ensureRole_of_writable] at h
    cases h
    exact ⟨rfl, rfl, rfl⟩
  · rw [ensureRole_of_locked writable] at h
    cases h

/-- A handle is the row that is read afterwards. -/
theorem findRole?_of_ensureRole {name guard : String} {row : Row}
    (h : ensureRole name guard db = .ok row db') :
    row.key = (name, guard) ∧ findRole? name guard db' = .ok (some row) db' ∧
      db'.store.roles.find? name guard = some row := by
  obtain ⟨writable, rfl, rfl⟩ := ensureRole_eq_ok h
  have found := Table.find?_offer db.store.roles name guard
  refine ⟨(Table.find?_spec found).2, ?_, found⟩
  rw [findRole?, query, if_neg (by simp [writable])]
  exact congrArg (EStateM.Result.ok · _) found

/-- A later handle of the same role is the same row. -/
theorem ensureRole_again {name guard : String} {row row' : Row} {db'' : Database}
    (wf : db.store.WellFormed) (h : ensureRole name guard db = .ok row db') (cs : List Command)
    (again : ensureRole name guard (run db' cs) = .ok row' db'') : row' = row := by
  obtain ⟨-, -, found⟩ := findRole?_of_ensureRole h
  obtain ⟨-, -, rfl⟩ := ensureRole_eq_ok h
  have made : ({ db with store := db.store.offerRole name guard } : Database).store.WellFormed :=
    (Store.evolves_offerRole db.store name guard).wellFormed wf
  have later := evolves_run made cs
  obtain ⟨-, rfl, -⟩ := ensureRole_eq_ok again
  rw [Table.rowFor, later.roles.find? found, Option.getD_some]

/-- After every run, names and numbers of rows are distinct in their table and no number is behind
the counter; links join rows that exist, each once. A further step leaves all rows as they are and
gives new ones later numbers. A role that is made is the one that is read, then and ever after. -/
theorem run_invariant (cs : List Command) :
    let db := run fresh cs
    (∀ table ∈ [Store.permissions, Store.roles],
      let t := table db.store
      (t.rows.map Row.key).Nodup ∧ (t.rows.map (·.id)).Nodup ∧
      (∀ r ∈ t.rows, 0 < r.id ∧ r.id ≤ t.counter) ∧
      ∀ c, ∃ new, (table (step db c).store).rows = t.rows ++ new ∧
        ∀ r ∈ new, ∀ old ∈ t.rows, old.id < r.id) ∧
    db.store.links.Nodup ∧
    (∀ l ∈ db.store.links, (∃ r ∈ db.store.roles.rows, r.id = l.role) ∧
      ∃ p ∈ db.store.permissions.rows, p.id = l.permission) ∧
    (∀ name guard, db.access ≠ .closed → ∃ row db', ensureRole name guard db = .ok row db') ∧
    ∀ name guard row db', ensureRole name guard db = .ok row db' →
      row.key = (name, guard) ∧ findRole? name guard db' = .ok (some row) db' ∧
      ∀ cs' row' db'', ensureRole name guard (run db' cs') = .ok row' db'' → row' = row := by
  intro db
  have wf : db.store.WellFormed := wellFormed_run cs
  refine ⟨?_, wf.links, fun l hl => ?_, fun name guard opened => ?_, fun name guard row db' h => ?_⟩
  · rw [List.forall_mem_cons, List.forall_mem_singleton]
    constructor
    · exact ⟨wf.permissions.keys, wf.permissions.ids, wf.permissions.bounds,
        fun c => (evolves_step wf c).permissions.later wf.permissions⟩
    · exact ⟨wf.roles.keys, wf.roles.ids, wf.roles.bounds,
        fun c => (evolves_step wf c).roles.later wf.roles⟩
  · obtain ⟨role, permission⟩ := wf.joined l hl
    exact ⟨Table.hasId_iff.mp role, Table.hasId_iff.mp permission⟩
  · have writable : db.access = .writable := writable_run opened
    obtain ⟨s, access⟩ := db
    subst writable
    exact ⟨_, _, ensureRole_of_writable name guard⟩
  · obtain ⟨key, read, -⟩ := findRole?_of_ensureRole h
    exact ⟨key, read, fun cs' row' db'' => ensureRole_again wf h cs'⟩

end Entitlements.Database
