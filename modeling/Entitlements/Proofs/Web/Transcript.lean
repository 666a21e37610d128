import Entitlements.Proofs.Store.Failures
import Entitlements.Proofs.Web.Writes

set_option autoImplicit false

/-!
Rows of events with their responses. Only syncs that succeed and closings count for what comes
after: a row without some of the others has the same responses and leaves the same database.
-/

namespace Entitlements.Web

/-- A POST to the sync of some guard. -/
def Request.isSync (r : Request) : Bool :=
  r.method == "POST" && match r.path with
    | [a, b, _, c] => a == Text.utf8 "api" && b == Text.utf8 "guards" && c == Text.utf8 "sync"
    | _ => false

namespace Service
variable (s : Service) {db : Database}

/-- Whether an event counts: a sync that succeeded, or closing the database. -/
def counts : Event × Option Response → Bool
  | (.closeDatabase, _) => true
  | (.request r, response) => r.isSync && response.any (·.status == 200)

/-- The response to an event, and the database after it. -/
def react (db : Database) : Event → Option Response × Database
  | .request r => ((s.respond r db).1, (s.respond r db).2)
  | .closeDatabase => (none, { db with access := .closed })

theorem serve_cons (db : Database) (e : Event) (es : List Event) :
    s.serve db (e :: es) = ((s.react db e).1 :: (s.serve (s.react db e).2 es).1,
      (s.serve (s.react db e).2 es).2) := by
  cases e <;> rfl

theorem wellFormed_react (h : db.store.WellFormed) (e : Event) :
    (s.react db e).2.store.WellFormed := by
  cases e with
  | request r => exact s.wellFormed_respond h r
  | closeDatabase => exact h

theorem isSync_of_path {r : Request} {raw : List UInt8} (post : r.method = "POST")
    (path : r.path = syncPath raw) : r.isSync = true := by
  simp [Request.isSync, post, path, syncPath]

/-- A request that does not count is answered from the database and leaves it alone. -/
theorem react_of_not_counts (h : db.store.WellFormed) {e : Event}
    (idle : counts (e, (s.react db e).1) = false) : (s.react db e).2 = db := by
  cases e with
  | closeDatabase => cases idle
  | request r =>
    by_cases post : r.method = "POST"
    swap
    · exact s.respond_reads post db
    rcases s.respond_posts post db with ⟨raw, guard, path, synced⟩ | ⟨response, refused, -⟩
    swap
    · exact congrArg Prod.snd refused
    change (s.respond r db).2 = db
    cases done : Database.sync s.policy s.configuration.superAdmins guard db with
    | ok report db' =>
      have answered : s.sync guard db = .ok (.json report.toJson) db' := Database.bind_of_ok done
      simp [counts, react, isSync_of_path post path, synced, settle_of_ok answered,
        Response.json] at idle
    | error f db' =>
      have failed : s.sync guard db = .error f db' := Database.bind_of_error done
      rw [synced, settle_of_error failed]
      exact Database.allOrNothing_sync h _ _ guard f db' done

/-- Each event with its response. -/
def transcript (db : Database) (es : List Event) : List (Event × Option Response) :=
  es.zip (s.serve db es).1

theorem transcript_cons (db : Database) (e : Event) (es : List Event) :
    s.transcript db (e :: es) =
      (e, (s.react db e).1) :: s.transcript (s.react db e).2 es := by
  rw [transcript, serve_cons, List.zip_cons_cons, transcript]

theorem map_fst_transcript (db : Database) (es : List Event) :
    (s.transcript db es).map Prod.fst = es := by
  induction es generalizing db with
  | nil => rfl
  | cons e es ih => rw [transcript_cons, List.map_cons, ih]

/-- A part of a transcript that has all that counts is the transcript of its own events. -/
theorem serve_of_sublist (h : db.store.WellFormed) {es : List Event}
    {kept : List (Event × Option Response)} (part : kept.Sublist (s.transcript db es))
    (same : kept.filter counts = (s.transcript db es).filter counts) :
    s.serve db (kept.map Prod.fst) = (kept.map Prod.snd, (s.serve db es).2) := by
  induction es generalizing db kept with
  | nil =>
    rw [List.sublist_nil.mp part]
    rfl
  | cons e es ih =>
    have later := s.wellFormed_react h e
    rw [transcript_cons] at part same
    rw [s.serve_cons db e es]
    rcases List.sublist_cons_iff.mp part with left | ⟨rest, rfl, part'⟩
    · -- An event that counts cannot be left out: one would be missing.
      have idle : counts (e, (s.react db e).1) = false := by
        by_contra writes
        rw [Bool.not_eq_false] at writes
        have fewer := (left.filter counts).length_le
        rw [same, List.filter_cons_of_pos writes, List.length_cons] at fewer
        omega
      rw [s.react_of_not_counts h idle] at left same ⊢
      rw [List.filter_cons_of_neg (by simpa [s.react_of_not_counts h idle] using idle)] at same
      exact ih h left same
    · have same' : rest.filter counts =
          (s.transcript (s.react db e).2 es).filter counts := by
        simp only [List.filter_cons] at same
        split at same
        · exact List.tail_eq_of_cons_eq same
        · exact same
      rw [List.map_cons, List.map_cons, serve_cons, ih later part' same']

/-- What a row of events leaves is what its successful syncs and closings alone leave. Leaving out
any of the other requests changes no response to those that stay. -/
theorem only_syncs_write (es : List Event) :
    let all := s.transcript .fresh es
    let db := (s.serve .fresh es).2
    all.map Prod.fst = es ∧
    (s.serve .fresh ((all.filter counts).map Prod.fst)).2 = db ∧
    ∀ kept : List (Event × Option Response), kept.Sublist all →
      kept.filter counts = all.filter counts →
      s.serve .fresh (kept.map Prod.fst) = (kept.map Prod.snd, db) := by
  intro all db
  have parts (kept : List (Event × Option Response)) (part : kept.Sublist all)
      (same : kept.filter counts = all.filter counts) :
      s.serve .fresh (kept.map Prod.fst) = (kept.map Prod.snd, db) :=
    s.serve_of_sublist Store.wellFormed_empty part same
  have alone : (all.filter counts).filter counts = all.filter counts := by
    simp
  refine ⟨s.map_fst_transcript .fresh es, ?_, parts⟩
  rw [parts _ List.filter_sublist alone]

/-- A listing and a sync of a blank guard are left out; the sync before and the listing behind the
closing stay. -/
theorem only_syncs_write_closed :
    let s : Service := ⟨⟨⟨.ofResources (.scalar "posts"), ∅, ∅⟩, .standard, "web"⟩, ∅, "en", "en"⟩
    let listing := Event.request (.ofTarget "GET" "/api/guards/web/permissions/flat")
    let es : List Event := [listing, .request (.ofTarget "POST" "/api/guards/web/sync"),
      .request (.ofTarget "POST" "/api/guards/%20/sync"), .closeDatabase, listing]
    let all := s.transcript .fresh es
    let kept := (all.drop 1).eraseIdx 1
    all.map counts = [false, true, false, true, false] ∧
      kept.Sublist all ∧ kept.filter counts = all.filter counts ∧
      s.serve .fresh (kept.map Prod.fst) = (kept.map Prod.snd, (s.serve .fresh es).2) := by
  intro s listing es all kept
  obtain ⟨-, -, parts⟩ := s.only_syncs_write es
  have part : kept.Sublist all := (List.eraseIdx_sublist _ 1).trans (List.drop_sublist 1 all)
  have same : kept.filter counts = all.filter counts := by
    subst kept all es listing s
    rfl
  refine ⟨?_, part, same, parts kept part same⟩
  subst kept all es listing s
  decide +kernel

end Service

end Entitlements.Web
