import Entitlements.Proofs.Store.Run

set_option autoImplicit false

/-!
Permissions offered in batches. A row keeps its number when it is offered again, though the offer is
counted; a new row takes the number of its first offer. So what a batch leaves depends on the row of
its offers alone, and not on where it is cut.
-/

namespace Entitlements

/-- First occurrences come at later and later places. -/
theorem pairwise_idxOf_eraseDups {α : Type} [BEq α] [LawfulBEq α] (p : α → Bool)
    (xs : List α) :
    (xs.filter p).eraseDups.Pairwise fun a b => xs.idxOf a < xs.idxOf b := by
  induction xs generalizing p with
  | nil => exact .nil
  | cons x xs ih =>
    -- Behind another element than the first, every place is one further on.
    have shifted {q : α → Bool} (others : ∀ a, q a = true → a ≠ x) :
        (xs.filter q).eraseDups.Pairwise fun a b => (x :: xs).idxOf a < (x :: xs).idxOf b := by
      apply (ih q).imp_of_mem
      intro a b ha hb before
      simp only [List.mem_eraseDups, List.mem_filter] at ha hb
      rw [List.idxOf_cons_ne _ (others a ha.2).symm, List.idxOf_cons_ne _ (others b hb.2).symm]
      exact Nat.succ_lt_succ before
    by_cases kept : p x = true
    · rw [List.filter_cons_of_pos kept, List.eraseDups_cons, List.filter_filter]
      refine .cons (fun b hb => ?_) (shifted fun a ha => by simp_all)
      have other : b ≠ x := by simp_all
      rw [List.idxOf_cons_self, List.idxOf_cons_ne _ other.symm]
      exact Nat.succ_pos _
    · rw [List.filter_cons_of_neg kept]
      apply shifted
      rintro a ha rfl
      exact kept ha

namespace Table

theorem counter_offerAll (t : Table) (ks : List (String × String)) :
    (t.offerAll ks).counter = t.counter + ks.length := by
  induction ks generalizing t with
  | nil => simp [offerAll]
  | cons k ks ih =>
    rw [offerAll_cons, ih, counter_offer, List.length_cons]
    omega

/-- The rows that offers make: each new key once, under the number of its first offer. -/
def made (t : Table) (ks : List (String × String)) : List Row :=
  (ks.filter (· ∉ t.keys)).eraseDups.map fun k => ⟨t.counter + 1 + ks.idxOf k, k.1, k.2⟩

theorem keys_made (t : Table) (ks : List (String × String)) :
    (t.made ks).map Row.key = (ks.filter (· ∉ t.keys)).eraseDups := by
  rw [made, List.map_map]
  exact List.map_id _

theorem increasing_made (t : Table) (ks : List (String × String)) :
    ((t.made ks).map (·.id)).Pairwise (· < ·) := by
  rw [made, List.map_map, List.pairwise_map]
  apply (pairwise_idxOf_eraseDups _ ks).imp
  intro a b before
  simp only [Function.comp_apply]
  omega

theorem later_of_mem_made {t : Table} {ks : List (String × String)} {r : Row}
    (h : r ∈ t.made ks) : t.counter < r.id := by
  obtain ⟨k, -, rfl⟩ := List.mem_map.mp h
  simp only
  omega

/-- An offer of a new key makes its row; one of a known key only passes a number. -/
theorem made_cons (t : Table) (k : String × String) (ks : List (String × String)) :
    t.made (k :: ks) = (if k ∈ t.keys then [] else [⟨t.counter + 1, k.1, k.2⟩]) ++
      (t.offer k.1 k.2).made ks := by
  have later {ls : List (String × String)} (others : ∀ l ∈ ls, l ≠ k) :
      ls.map (fun l => (⟨t.counter + 1 + (k :: ks).idxOf l, l.1, l.2⟩ : Row)) =
        ls.map fun l => ⟨t.counter + 1 + 1 + ks.idxOf l, l.1, l.2⟩ := by
    apply List.map_congr_left
    intro l hl
    rw [List.idxOf_cons_ne _ (others l hl).symm]
    congr 1
    omega
  have others {p : String × String → Bool} (h : p k = false) :
      ∀ l ∈ (ks.filter p).eraseDups, l ≠ k := by
    rintro l hl rfl
    simp only [List.mem_eraseDups, List.mem_filter, h] at hl
    exact Bool.false_ne_true hl.2
  simp only [made, counter_offer, keys_offer]
  by_cases old : k ∈ t.keys
  · rw [List.filter_cons_of_neg (by simpa using old), later (others (by simpa using old)),
      if_pos old, if_pos old, List.nil_append]
  · have rest : (ks.filter (· ∉ t.keys)).filter (fun l => !l == k) =
        ks.filter (· ∉ t.keys ++ [k]) := by
      rw [List.filter_filter]
      apply List.filter_congr
      intro l _
      by_cases same : l = k <;> simp [same]
    rw [List.filter_cons_of_pos (by simpa using old), List.eraseDups_cons, rest, List.map_cons,
      later (others (by simp)), List.idxOf_cons_self, if_neg old, if_neg old]
    simp

theorem rows_offerAll (t : Table) (ks : List (String × String)) :
    (t.offerAll ks).rows = t.rows ++ t.made ks := by
  induction ks generalizing t with
  | nil => simp [offerAll, made]
  | cons k ks ih =>
    rw [offerAll_cons, ih, made_cons]
    by_cases old : k ∈ t.keys
    · rw [rows_offer_of_mem old, if_pos old, List.nil_append]
    · rw [rows_offer_of_notMem old, if_neg old, List.append_assoc]

end Table

namespace Store

theorem offered_append (s : Store) (xs ys : List (String × String)) :
    (s.offered xs).offered ys = s.offered (xs ++ ys) := by
  rw [offered, offered, offered, Table.offerAll_append]

/-- Statements that make up a list do together what the list does, wherever it is cut. -/
theorem foldl_upsertChunk_flatten (s : Store) (parts : List (List (String × String))) :
    parts.foldl upsertChunk (0, s) = s.upsert parts.flatten := by
  rw [foldl_upsertChunk, upsert_eq, Nat.zero_add]

end Store

namespace Database

/-- On an open database, two batches in a row leave the store that their concatenation leaves, and
each is counted by its length. The keys of the list join those that were there; rows stay, and new
ones come behind them in the order of their first offer, with increasing numbers above all that were
given. However the list is cut into statements, the store and the count are the same. -/
theorem batches_compose (cs : List Command) (opened : (run fresh cs).access ≠ .closed)
    (xs ys : List (String × String)) :
    let s := (run fresh cs).store
    let before := s.permissions
    ∃ s₁ s₂ : Store,
      upsert xs (run fresh cs) = .ok xs.length ⟨s₁, .writable⟩ ∧
      upsert ys ⟨s₁, .writable⟩ = .ok ys.length ⟨s₂, .writable⟩ ∧
      upsert (xs ++ ys) (run fresh cs) = .ok (xs.length + ys.length) ⟨s₂, .writable⟩ ∧
      s₂.permissions.counter = before.counter + (xs ++ ys).length ∧
      (∀ key, key ∈ s₂.permissions.keys ↔ key ∈ before.keys ∨ key ∈ xs ++ ys) ∧
      (∃ new, s₂.permissions.rows = before.rows ++ new ∧
        new.map Row.key = ((xs ++ ys).filter (· ∉ before.keys)).eraseDups ∧
        (new.map (·.id)).Pairwise (· < ·) ∧
        ∀ r ∈ new, before.counter < r.id ∧
          r.id = before.counter + 1 + (xs ++ ys).idxOf r.key) ∧
      s₂.roles = s.roles ∧ s₂.links = s.links ∧
      ∀ parts : List (List (String × String)), parts.flatten = xs ++ ys →
        parts.foldl Store.upsertChunk (0, s) = (xs.length + ys.length, s₂) := by
  intro s before
  have db : run fresh cs = ⟨s, .writable⟩ := by rw [← writable_run opened]
  have whole : upsert (xs ++ ys) ⟨s, .writable⟩ =
      .ok (xs.length + ys.length) ⟨s.offered (xs ++ ys), .writable⟩ := by
    rw [upsert_of_writable, List.length_append]
  refine ⟨s.offered xs, s.offered (xs ++ ys), ?_, ?_, ?_, before.counter_offerAll _,
    fun key => Table.mem_keys_offerAll, ⟨before.made (xs ++ ys), before.rows_offerAll _,
      before.keys_made _, before.increasing_made _, fun r hr => ?_⟩, rfl, rfl, ?_⟩
  · rw [db]
    exact upsert_of_writable xs
  · rw [← Store.offered_append]
    exact upsert_of_writable ys
  · rw [db]
    exact whole
  · refine ⟨Table.later_of_mem_made hr, ?_⟩
    obtain ⟨k, -, rfl⟩ := List.mem_map.mp hr
    rfl
  · intro parts cut
    rw [Store.foldl_upsertChunk_flatten, cut, Store.upsert_eq, List.length_append]

/-- The first batch is longer than one statement; the other repeats keys of it and of its own. -/
theorem batches_compose_repeated :
    let cs : List Command := [.upsert [("read", "web")], .ensureRole "editor" "web"]
    let xs := List.replicate 203 ("read", "web") ++ [("pin", "web")]
    let ys := [("pin", "web"), ("pin", "api"), ("read", "web"), ("pin", "api"), ("fly", "web")]
    (run fresh cs).access ≠ .closed ∧ ∃ s₁ s₂ : Store,
      upsert xs (run fresh cs) = .ok 204 ⟨s₁, .writable⟩ ∧
      upsert ys ⟨s₁, .writable⟩ = .ok 5 ⟨s₂, .writable⟩ ∧
      upsert (xs ++ ys) (run fresh cs) = .ok 209 ⟨s₂, .writable⟩ ∧
      s₂.permissions.counter = 210 ∧
      s₂.permissions.keys = [("read", "web"), ("pin", "web"), ("pin", "api"), ("fly", "web")] ∧
      s₂.permissions.rows.map (·.id) = [1, 205, 207, 210] := by
  intro cs xs ys
  have opened : (run fresh cs).access ≠ .closed := by decide +kernel
  have before : (run fresh cs).store.permissions = ⟨[⟨1, "read", "web"⟩], 1⟩ := by decide +kernel
  obtain ⟨s₁, s₂, first, second, both, counter, -, ⟨new, rows, keys, -, numbers⟩, -⟩ :=
    batches_compose cs opened xs ys
  have ids : new.map (·.id) = (new.map Row.key).map fun k => 2 + ((xs ++ ys).idxOf k : Int) := by
    rw [List.map_map]
    apply List.map_congr_left
    intro r hr
    rw [(numbers r hr).2, before]
    rfl
  refine ⟨opened, s₁, s₂, first, second, both, ?_, ?_, ?_⟩
  · rw [counter, before]
    decide +kernel
  · rw [Table.keys, rows, List.map_append, keys, before]
    decide +kernel
  · rw [rows, List.map_append, ids, keys, before]
    decide +kernel

end Database

end Entitlements
