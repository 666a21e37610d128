import Entitlements.Proofs.Json.Quote
import Entitlements.Proofs.Store.Failures
import Entitlements.Proofs.Sync.Contents
import Entitlements.Proofs.Web.Writes

set_option autoImplicit false

/-!
Databases that requests alone have written. Such a database stays open, and it holds what syncs of
the one configuration leave in some guards, in whatever order they came and however often; a guard
that a report names is one of them.
-/

namespace Entitlements.Web

/-- A failure is never answered as a success. -/
theorem Response.status_ofFailure_ne (f : Failure) : (Response.ofFailure f).status ≠ 200 := by
  intro status
  have status : f.kind.status = 200 := status
  cases kind : f.kind <;> simp [kind, Failure.Kind.status] at status

theorem Response.ofFailure_ne_json (f : Failure) (v : Json) : Response.ofFailure f ≠ .json v :=
  fun same => Response.status_ofFailure_ne f (congrArg Response.status same)

theorem Response.json_inj {v w : Json} (same : Response.json v = .json w) :
    v.render = w.render := Body.text.inj (congrArg Response.body same)

/-- The answer of a sync tells its guard. -/
theorem guard_of_response {r r' : SyncReport}
    (same : Response.json r.toJson = .json r'.toJson) : r.guard = r'.guard :=
  Json.first_of_render (Response.json_inj same)

namespace Service
variable {s : Service} {guards : Finset String} {db : Database}

/-- An open database that holds the configuration in these guards and nothing else. -/
structure Synced (s : Service) (guards : Finset String) (db : Database) : Prop where
  writable : db.access = .writable
  wellFormed : db.store.WellFormed
  contents : db.store.contents =
    (∅ : Store).contents.sync s.policy s.configuration.superAdmins guards

theorem synced_fresh (s : Service) : s.Synced ∅ .fresh where
  writable := rfl
  wellFormed := Store.wellFormed_empty
  contents := (Contents.sync_empty _).symm

theorem Synced.sync (h : s.Synced guards db) {guard : String} {report : SyncReport}
    {db' : Database}
    (done : Database.sync s.policy s.configuration.superAdmins guard db = .ok report db') :
    s.Synced (guards ∪ {report.guard}) db' := by
  obtain ⟨rfl, evolves, contents⟩ := Database.contents_of_sync h.wellFormed done
  refine ⟨?_, evolves.wellFormed h.wellFormed, ?_⟩
  · obtain ⟨store, access⟩ := db
    obtain rfl : access = .writable := h.writable
    by_cases blank : Text.trim guard = ""
    · rw [Database.sync_of_blank _ _ blank] at done
      cases done
    · rw [Database.sync_of_writable h.wellFormed.permissions _ _ blank] at done
      cases done
      rfl
  · rw [contents, h.contents, Contents.sync_sync]
    rfl

/-- A sync is answered with its report or refused, and then the database stays as it is. -/
theorem Synced.settle_sync (h : s.Synced guards db) (guard : String) :
    (∃ (report : SyncReport) (db' : Database), report.guard = Text.trim guard ∧
      s.Synced (guards ∪ {report.guard}) db' ∧
      settle (s.sync guard) db = (.json report.toJson, db')) ∨
    ∃ f, settle (s.sync guard) db = (.ofFailure f, db) := by
  cases done : Database.sync s.policy s.configuration.superAdmins guard db with
  | ok report db' =>
    have answered : s.sync guard db = .ok (.json report.toJson) db' := Database.bind_of_ok done
    have named := congrArg SyncReport.guard (Database.contents_of_sync h.wellFormed done).1
    exact .inl ⟨report, db', named, h.sync done, settle_of_ok answered⟩
  | error f db' =>
    have failed : s.sync guard db = .error f db' := Database.bind_of_error done
    obtain rfl := Database.allOrNothing_sync h.wellFormed _ _ guard f db' done
    exact .inr ⟨f, settle_of_error failed⟩

theorem Synced.respond (h : s.Synced guards db) (r : Request) :
    ∃ guards', guards ⊆ guards' ∧ s.Synced guards' (s.respond r db).2 ∧
      ∀ report : SyncReport, r.method = "POST" → (s.respond r db).1 = .json report.toJson →
        report.guard ∈ guards' := by
  by_cases post : r.method = "POST"
  swap
  · rw [s.respond_reads post]
    exact ⟨guards, subset_rfl, h, fun _ posted => absurd posted post⟩
  rcases s.respond_posts post db with ⟨raw, guard, -, synced⟩ | ⟨response, refused, status⟩
  · rw [synced]
    rcases h.settle_sync guard with ⟨report, db', -, h', answered⟩ | ⟨f, failed⟩
    · rw [answered]
      refine ⟨guards ∪ {report.guard}, Finset.subset_union_left, h', ?_⟩
      intro report' _ same
      simp [guard_of_response same]
    · rw [failed]
      exact ⟨guards, subset_rfl, h, fun _ _ same =>
        absurd same (Response.ofFailure_ne_json f _)⟩
  · rw [refused]
    refine ⟨guards, subset_rfl, h, fun _ _ same => ?_⟩
    exact absurd (congrArg Response.status same) status

/-- The database after a row of requests. -/
def after (s : Service) (db : Database) (rs : List Request) : Database :=
  (s.serve db (rs.map .request)).2

theorem after_cons (s : Service) (db : Database) (r : Request) (rs : List Request) :
    s.after db (r :: rs) = s.after (s.respond r db).2 rs := rfl

theorem after_append (s : Service) (db : Database) (rs rs' : List Request) :
    s.after db (rs ++ rs') = s.after (s.after db rs) rs' := by
  induction rs generalizing db with
  | nil => rfl
  | cons r rs ih => exact ih (s.respond r db).2

theorem Synced.after (h : s.Synced guards db) (rs : List Request) :
    ∃ guards', guards ⊆ guards' ∧ s.Synced guards' (s.after db rs) := by
  induction rs generalizing guards db with
  | nil => exact ⟨guards, subset_rfl, h⟩
  | cons r rs ih =>
    obtain ⟨guards₁, more, h₁, -⟩ := h.respond r
    obtain ⟨guards₂, more', h₂⟩ := ih h₁
    exact ⟨guards₂, more.trans more', h₂⟩

/-- A guard that was reported stays synced, whatever is requested before and behind. -/
theorem exists_synced {earlier : List Request} {post : Request} {report : SyncReport}
    (posted : post.method = "POST")
    (answered : (s.respond post (s.after .fresh earlier)).1 = .json report.toJson)
    (later : List Request) :
    ∃ guards, report.guard ∈ guards ∧
      s.Synced guards (s.after .fresh (earlier ++ post :: later)) := by
  obtain ⟨guards₁, -, h₁⟩ := s.synced_fresh.after earlier
  obtain ⟨guards₂, -, h₂, named⟩ := h₁.respond post
  obtain ⟨guards₃, more, h₃⟩ := h₂.after later
  rw [after_append, after_cons]
  exact ⟨guards₃, more (named report posted answered), h₃⟩

end Service

end Entitlements.Web
