import Entitlements.Proofs.Store.Run
import Entitlements.Web.Service

set_option autoImplicit false

/-!
What requests write. A response to any method but POST is read off the database, which stays as it
is; a POST syncs a guard or is refused.
-/

namespace Entitlements

namespace Database
variable {α β : Type} {a : Action α}

/-- Whether it fails or not, the action leaves the database as it is. -/
def ReadOnly (a : Action α) : Prop := ∀ db, (perform a db).2 = db

theorem readOnly_pure (x : α) : ReadOnly (pure x) := fun _ => rfl

theorem readOnly_throw (e : Failure) : ReadOnly (throw e : Action α) := fun _ => rfl

theorem readOnly_query (f : Store → α) : ReadOnly (query f) := perform_query f

theorem ReadOnly.bind (h : ReadOnly a) {f : α → Action β} (next : ∀ x, ReadOnly (f x)) :
    ReadOnly (a >>= f) := by
  intro db
  have same := h db
  cases done : a db with
  | ok x db' =>
    rw [perform_of_ok done] at same
    have onward : perform (a >>= f) db = perform (f x) db' := by
      rw [perform, perform, bind_of_ok done]
    rw [onward, next x db']
    exact same
  | error e db' =>
    rw [perform_of_error done] at same
    rw [perform_of_error (bind_of_error done)]
    exact same

end Database

namespace Web.Service
open Database (ReadOnly readOnly_pure readOnly_throw readOnly_query perform)
variable (s : Service)

theorem readOnly_storedItems (guard : String) : ReadOnly (storedItems guard) :=
  (readOnly_query _).bind fun _ => readOnly_pure _

theorem readOnly_selected (guard : String) (role : Option String) :
    ReadOnly (selected guard role) := by
  cases role with
  | none => exact readOnly_pure _
  | some role =>
    refine (readOnly_query _).bind fun found => ?_
    cases found with
    | none => exact readOnly_throw _
    | some row => exact readOnly_query _

theorem readOnly_permissions (guard : String) (role locale : Option String) :
    ReadOnly (s.permissions guard role locale) :=
  (readOnly_storedItems guard).bind fun _ => (readOnly_selected guard role).bind fun _ =>
    readOnly_pure _

theorem readOnly_flatPermissions (guard : String) (locale : Option String) :
    ReadOnly (s.flatPermissions guard locale) :=
  (readOnly_storedItems guard).bind fun _ => readOnly_pure _

theorem readOnly_withGuard (raw : List UInt8) {f : String → Action Response}
    (h : ∀ guard, ReadOnly (f guard)) : ReadOnly (withGuard raw f) := by
  unfold withGuard
  split
  · exact h _
  · exact readOnly_pure _

theorem readOnly_withFields (required optional : List String) (fields : List (String × String))
    {f : (String → Option String) → Action Response} (h : ∀ get, ReadOnly (f get)) :
    ReadOnly (withFields required optional fields f) := by
  unfold withFields
  split
  · exact h _
  · exact readOnly_pure _

theorem readOnly_answer (fields : List (String × String)) {route : Route}
    (get : route.method ≠ "POST") : ReadOnly (s.answer fields route) := by
  cases route with
  | sync raw => exact absurd rfl get
  | health => exact fun _ => rfl
  | roles | description =>
    rw [answer]
    exact readOnly_pure _
  | catalog | translate =>
    rw [answer]
    exact readOnly_withFields _ _ _ fun _ => readOnly_pure _
  | permissions raw =>
    rw [answer]
    exact readOnly_withGuard raw fun guard => readOnly_withFields _ _ _ fun _ =>
      s.readOnly_permissions guard _ _
  | flatPermissions raw =>
    rw [answer]
    exact readOnly_withGuard raw fun guard => readOnly_withFields _ _ _ fun _ =>
      s.readOnly_flatPermissions guard _

theorem readOnly_handle {r : Request} (get : r.method ≠ "POST") : ReadOnly (s.handle r) := by
  unfold handle
  split
  · exact readOnly_pure _
  split
  · exact readOnly_pure _
  split
  · rename_i same
    exact s.readOnly_answer r.query (same ▸ get)
  · exact readOnly_pure _

theorem settle_eq_perform (a : Action Response) (db : Database) :
    (settle a db).2 = (perform a db).2 := by
  rw [settle, perform]
  cases a db <;> rfl

theorem settle_of_ok {a : Action Response} {db db' : Database} {r : Response}
    (h : a db = .ok r db') : settle a db = (r, db') := by
  rw [settle, h]

theorem settle_of_error {a : Action Response} {db db' : Database} {f : Failure}
    (h : a db = .error f db') : settle a db = (.ofFailure f, db') := by
  rw [settle, h]

theorem respond_reads {r : Request} (get : r.method ≠ "POST") (db : Database) :
    (s.respond r db).2 = db := by
  have reads : "GET" ≠ "POST" := by decide
  unfold respond
  split
  · exact (settle_eq_perform _ db).trans (s.readOnly_handle reads db)
  · exact (settle_eq_perform _ db).trans (s.readOnly_handle get db)

/-- The path of a sync, with the guard as it is written there. -/
def syncPath (guard : List UInt8) : List (List UInt8) :=
  [Text.utf8 "api", Text.utf8 "guards", guard, Text.utf8 "sync"]

/-- Nothing else leads to a sync. -/
theorem ofPath?_eq_sync {path : List (List UInt8)} {raw : List UInt8}
    (h : Route.ofPath? path = some (.sync raw)) : path = syncPath raw := by
  unfold Route.ofPath? at h
  simp only at h
  split at h
  · grind
  · simp only [Bool.and_eq_true, beq_iff_eq] at h
    split at h
    · rename_i front
      split at h
      · rename_i last
        cases h
        rw [syncPath, front.1, front.2, last]
      · grind
    · cases h
  · grind
  · cases h

/-- The database is for syncs alone: a POST that is no sync is refused. -/
theorem respond_posts {r : Request} (post : r.method = "POST") (db : Database) :
    (∃ raw guard, r.path = syncPath raw ∧ s.respond r db = settle (s.sync guard) db) ∨
      ∃ response, s.respond r db = (response, db) ∧ response.status ≠ 200 := by
  have reads : "GET" ≠ "POST" := by decide
  have method : s.respond r db = settle (s.handle r) db := by
    rw [respond, if_neg (by rw [post]; decide)]
  rw [method, handle, if_neg (by rw [post]; decide)]
  split
  · exact .inr ⟨.empty 404, rfl, by decide⟩
  split
  · rename_i route routed same
    cases route with
    | sync raw =>
      rw [answer, withGuard]
      split
      · exact .inl ⟨raw, _, ofPath?_eq_sync routed, rfl⟩
      · exact .inr ⟨.plain 400 _, rfl, by decide⟩
    | _ => exact absurd (same.symm.trans post) reads
  · exact .inr ⟨.empty 405, rfl, by decide⟩

/-- A request leaves the database as it is or does what a sync command does. -/
theorem respond_steps (r : Request) (db : Database) :
    (s.respond r db).2 = db ∨ ∃ guard, (s.respond r db).2 =
      db.step (.sync s.policy s.configuration.superAdmins guard) := by
  by_cases post : r.method = "POST"
  · rcases s.respond_posts post db with ⟨raw, guard, -, synced⟩ | ⟨response, refused, -⟩
    · refine .inr ⟨guard, ?_⟩
      rw [synced, settle_eq_perform, sync, Database.perform_bind_pure, Database.step,
        Database.Command.action, Database.perform_bind_pure]
    · exact .inl (congrArg Prod.snd refused)
  · exact .inl (s.respond_reads post db)

theorem wellFormed_respond {db : Database} (h : db.store.WellFormed) (r : Request) :
    (s.respond r db).2.store.WellFormed := by
  rcases s.respond_steps r db with same | ⟨guard, stepped⟩
  · rw [same]
    exact h
  · rw [stepped]
    exact (Database.evolves_step h _).wellFormed h

end Web.Service

end Entitlements
