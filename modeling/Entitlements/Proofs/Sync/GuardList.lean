import Entitlements.CommandLine.Run
import Entitlements.Proofs.Sync.Contents
import Entitlements.Proofs.Text.Trim
import Entitlements.Store.Snapshot

set_option autoImplicit false

/-!
Syncs into a list of guards. Each of them is done, and together they are one sync into the set of
the guards: neither their order nor repetitions show in what the database holds, ids apart.
-/

namespace Entitlements

theorem Contents.foldl_sync (p : Policy) (admins : SuperAdmins) (c : Contents)
    (guards : List String) :
    guards.foldl (fun c guard => c.sync p admins {guard}) c = c.sync p admins guards.toFinset := by
  induction guards generalizing c with
  | nil => simp
  | cons guard guards ih =>
    rw [List.foldl_cons, ih, sync_sync, List.toFinset_cons, Finset.insert_eq]

theorem Store.contents_foldl_synced {s : Store} (h : s.WellFormed) (p : Policy)
    (admins : SuperAdmins) (guards : List String) :
    (guards.foldl (fun s guard => s.synced p admins guard) s).contents =
      s.contents.sync p admins guards.toFinset := by
  rw [contents_foldl (g := fun c guard => c.sync p admins {guard})
    (fun s guard => s.evolves_synced p admins guard)
    (fun s guard h => contents_synced p admins h guard) h, Contents.foldl_sync]

theorem mem_guardNames {raw guard : String} (h : guard ∈ guardNames raw) :
    guard ≠ "" ∧ Text.trim guard = guard := by
  simp only [guardNames, List.mem_filter, List.mem_map, decide_eq_true_eq] at h
  obtain ⟨⟨piece, -, rfl⟩, named⟩ := h
  exact ⟨named, Text.trim_trim piece⟩

namespace Database

theorem syncAll_of_writable {s : Store} (h : s.WellFormed) (p : Policy) (admins : SuperAdmins)
    {guards : List String} (named : ∀ guard ∈ guards, guard ≠ "" ∧ Text.trim guard = guard) :
    syncAll p admins guards ⟨s, .writable⟩ =
      (guards.map fun guard => (guard, .ok (reportOf p admins guard)),
        ⟨guards.foldl (fun s guard => s.synced p admins guard) s, .writable⟩) := by
  induction guards generalizing s with
  | nil => rfl
  | cons guard guards ih =>
    obtain ⟨visible, trimmed⟩ := named guard List.mem_cons_self
    have first := sync_of_writable h.permissions p admins (trimmed.symm ▸ visible)
    have rest := ih ((s.evolves_synced p admins guard).wellFormed h)
      fun g hg => named g (List.mem_cons_of_mem guard hg)
    rw [trimmed] at first
    rw [syncAll, perform_of_ok first]
    simp only [rest, List.map_cons, List.foldl_cons]

end Database

namespace CommandLine
open Database

theorem join_map_of_empty {α : Type} {f : α → String} {xs : List α} (h : ∀ x ∈ xs, f x = "") :
    String.join (xs.map f) = "" := by
  have blanks : xs.map f = xs.map fun _ => "" := List.map_congr_left h
  rw [blanks]
  induction xs with
  | nil => rfl
  | cons x xs ih => simp_all [String.join]

theorem syncsText_of_ok {rs : List (String × Except Failure SyncReport)}
    (done : ∀ r ∈ rs, ∃ report, r.2 = .ok report) :
    (syncsText rs).code = 0 ∧ (syncsText rs).err = "" := by
  have quiet : String.join ((rs.map fun r => syncText r.1 r.2).map (·.err)) = "" := by
    rw [List.map_map]
    apply join_map_of_empty
    intro r hr
    obtain ⟨report, ok⟩ := done r hr
    simp [syncText, ok, Output.complaining]
  simp only [syncsText, quiet, Output.complaining, if_true, and_self]

variable {format : FileFormat} {s : Settings} {path raw : String} {t t₁ : FileTree}
  {c : Configuration} {connection : Connection}

theorem reading_of_ok {α : Type} {f : FileTree → Except Fault α} {a : α} (h : f t = .ok a) :
    reading f t = .ok a t := by
  have read : (get : Run FileTree) t = .ok t t := rfl
  rw [reading, bind_of_ok read, h]
  rfl

theorem loadConfiguration_of_ok (h : Configuration.load t path = .ok c) :
    loadConfiguration path t = .ok c t := by
  apply reading_of_ok
  rw [h]
  rfl

theorem runSync_eq (loaded : loadConfiguration path t = .ok c t) (named : guardNames raw ≠ [])
    (connected : openDatabase format s t = .ok connection t₁) :
    let all := connection.database.syncAll c.policy c.superAdmins (guardNames raw)
    runSync format s path (some raw) t =
      .ok (syncsText all.1) (Connection.save format { connection with database := all.2 } t₁) := by
  rw [runSync, bind_of_ok loaded, Option.getD_some, if_neg named]
  exact bind_of_ok connected

/-- Two lists with the same guards, on any store that a run leaves open. Every guard is synced, the
command ends well with either list, and the database holds the same afterwards: the permissions and
roles by name and guard, and the links by their ends, as one sync into the set of the guards leaves
them. -/
theorem guards_are_a_set (c : Configuration) (cs : List Database.Command) (raw raw' : String)
    (opened : (Database.run .fresh cs).access ≠ .closed)
    (same : (guardNames raw).toFinset = (guardNames raw').toFinset) :
    let all (list : String) :=
      syncAll c.policy c.superAdmins (guardNames list) (Database.run .fresh cs)
    (all raw).2.store.contents = (all raw').2.store.contents ∧
    ∀ list ∈ [raw, raw'],
      (all list).1 = (guardNames list).map (fun guard =>
        (guard, .ok (reportOf c.policy c.superAdmins guard))) ∧
      (all list).2.store.contents = (Database.run .fresh cs).store.contents.sync c.policy
        c.superAdmins (guardNames list).toFinset ∧
      ∀ (format : FileFormat) (s : Settings) (path : String) (t t₁ : FileTree)
        (connection : Connection),
        loadConfiguration path t = .ok c t → openDatabase format s t = .ok connection t₁ →
        connection.database = Database.run .fresh cs → guardNames list ≠ [] →
        ∃ output, runSync format s path (some list) t =
            .ok output (Connection.save format { connection with database := (all list).2 } t₁) ∧
          output.code = 0 ∧ output.err = "" := by
  have wf := wellFormed_run cs
  have writable := writable_run opened
  generalize Database.run .fresh cs = db at wf writable ⊢
  obtain ⟨store, access⟩ := db
  subst writable
  have named (list : String) : ∀ guard ∈ guardNames list, guard ≠ "" ∧ Text.trim guard = guard :=
    fun _ => mem_guardNames
  have synced (list : String) :=
    syncAll_of_writable (s := store) wf c.policy c.superAdmins (named list)
  intro all
  have after (list : String) : (all list).2.store.contents =
      store.contents.sync c.policy c.superAdmins (guardNames list).toFinset :=
    (congrArg (·.2.store.contents) (synced list)).trans (Store.contents_foldl_synced wf _ _ _)
  refine ⟨?_, fun list _ => ⟨congrArg Prod.fst (synced list), after list, ?_⟩⟩
  · rw [after, after, same]
  · intro format s path t t₁ connection loaded connected reached given
    have ended := runSync_eq loaded given connected
    rw [reached] at ended
    refine ⟨_, ended, syncsText_of_ok fun r hr => ?_⟩
    rw [synced list] at hr
    obtain ⟨guard, -, rfl⟩ := List.mem_map.mp hr
    exact ⟨_, rfl⟩

/-- A configuration in a file, and a database in memory. -/
theorem guards_are_a_set_two :
    let t : FileTree := ⟨[], [([Text.utf8 "c.json"], .file (Text.utf8
      "\x7b\"permissions\": [\"posts\"], \"roles\": \x7b\"editor\": \"*\"\x7d\x7d"))]⟩
    let s : Settings := ⟨some "sqlite::memory:", "", "", "", "", 0⟩
    let format : FileFormat := .snapshot
    ∃ c, loadConfiguration "c.json" t = .ok c t ∧
      (syncAll c.policy c.superAdmins (guardNames " web, api,,web") .fresh).2.store.contents =
        (syncAll c.policy c.superAdmins (guardNames "api,web") .fresh).2.store.contents ∧
      ∃ output t', runSync format s "c.json" (some " web, api,,web") t = .ok output t' ∧
        output.code = 0 := by
  intro t s format
  have readable : (Configuration.load t "c.json").isOk = true := by decide +kernel
  cases loaded : Configuration.load t "c.json" with
  | error fault => rw [loaded] at readable; cases readable
  | ok c =>
  have opens : (match openDatabase format s t with
      | .ok connection _ => decide (connection.database = .fresh)
      | .error .. => false) = true := by decide +kernel
  cases connected : openDatabase format s t with
  | error fault t₁ => rw [connected] at opens; cases opens
  | ok connection t₁ =>
  rw [connected] at opens
  obtain ⟨contents, ends⟩ := guards_are_a_set c [] " web, api,,web" "api,web" (by decide)
    (by decide +kernel)
  obtain ⟨-, -, commands⟩ := ends " web, api,,web" List.mem_cons_self
  obtain ⟨output, ran, code, -⟩ :=
    commands format s "c.json" t t₁ connection (loadConfiguration_of_ok loaded) connected
      (of_decide_eq_true opens) (by decide +kernel)
  exact ⟨c, loadConfiguration_of_ok loaded, contents, output, _, ran, code⟩

end CommandLine

end Entitlements
