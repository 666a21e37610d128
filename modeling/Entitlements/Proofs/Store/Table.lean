import Entitlements.NameSet
import Entitlements.Store
import Mathlib.Data.List.Nodup

set_option autoImplicit false

/-!
Tables under offers. A well-formed table has one row for a name and guard and one for an id, and
its counter is not behind any id; so the next number is free. Offers keep this, and a table only
grows by rows with numbers that were never given before.
-/

namespace Entitlements

/-- What a row is told by. -/
def Row.key (r : Row) : String × String := (r.name, r.guard)

namespace Table

def keys (t : Table) : List (String × String) := t.rows.map Row.key

structure WellFormed (t : Table) : Prop where
  keys : t.keys.Nodup
  ids : (t.rows.map (·.id)).Nodup
  bounds : ∀ r ∈ t.rows, 0 < r.id ∧ r.id ≤ t.counter
  counter : 0 ≤ t.counter

/-- Rows stay, and new ones come behind them under later numbers. -/
structure Grows (t t' : Table) : Prop where
  counter : t.counter ≤ t'.counter
  rows : ∃ new, t'.rows = t.rows ++ new ∧ ∀ r ∈ new, t.counter < r.id

theorem wellFormed_empty : WellFormed ∅ where
  keys := List.nodup_nil
  ids := List.nodup_nil
  bounds _ h := nomatch h
  counter := Int.le_refl 0

variable {t t' t'' : Table} {name guard : String} {row : Row}

theorem find?_spec (h : t.find? name guard = some row) :
    row ∈ t.rows ∧ row.key = (name, guard) := by
  have told := List.find?_some h
  simp only [Bool.and_eq_true, beq_iff_eq] at told
  exact ⟨List.mem_of_find?_eq_some h, Prod.ext told.1 told.2⟩

theorem find?_eq_none_iff : t.find? name guard = none ↔ (name, guard) ∉ t.keys := by
  simp only [find?, List.find?_eq_none, Bool.and_eq_true, beq_iff_eq, keys, List.mem_map,
    Row.key, Prod.mk.injEq]
  grind

theorem exists_find? (h : (name, guard) ∈ t.keys) : ∃ row, t.find? name guard = some row := by
  cases found : t.find? name guard with
  | some row => exact ⟨row, rfl⟩
  | none => exact absurd h (find?_eq_none_iff.mp found)

theorem WellFormed.eq_of_id (h : t.WellFormed) {a b : Row} (ha : a ∈ t.rows) (hb : b ∈ t.rows)
    (same : a.id = b.id) : a = b := List.inj_on_of_nodup_map h.ids ha hb same

theorem WellFormed.eq_of_key (h : t.WellFormed) {a b : Row} (ha : a ∈ t.rows) (hb : b ∈ t.rows)
    (same : a.key = b.key) : a = b := List.inj_on_of_nodup_map h.keys ha hb same

theorem hasId_iff {id : Int} : t.hasId id = true ↔ ∃ r ∈ t.rows, r.id = id := by
  simp [hasId]

@[simp] theorem counter_offer (t : Table) (name guard : String) :
    (t.offer name guard).counter = t.counter + 1 := by
  unfold offer
  split <;> rfl

theorem rows_offer_of_mem (h : (name, guard) ∈ t.keys) : (t.offer name guard).rows = t.rows := by
  obtain ⟨row, found⟩ := exists_find? h
  rw [offer, found]

theorem rows_offer_of_notMem (h : (name, guard) ∉ t.keys) :
    (t.offer name guard).rows = t.rows ++ [⟨t.counter + 1, name, guard⟩] := by
  rw [offer, find?_eq_none_iff.mpr h]

theorem keys_offer (t : Table) (name guard : String) :
    (t.offer name guard).keys =
      if (name, guard) ∈ t.keys then t.keys else t.keys ++ [(name, guard)] := by
  split
  · rename_i old
    rw [keys, rows_offer_of_mem old, keys]
  · rename_i new
    rw [keys, rows_offer_of_notMem new, keys, List.map_append]
    rfl

theorem mem_keys_offer {key : String × String} :
    key ∈ (t.offer name guard).keys ↔ key ∈ t.keys ∨ key = (name, guard) := by
  rw [keys_offer]
  split <;> grind

/-- The row that an offer keeps or makes. -/
def rowFor (t : Table) (name guard : String) : Row :=
  (t.find? name guard).getD ⟨t.counter + 1, name, guard⟩

theorem find?_offer (t : Table) (name guard : String) :
    (t.offer name guard).find? name guard = some (t.rowFor name guard) := by
  rw [rowFor, offer]
  cases found : t.find? name guard with
  | some row => exact found
  | none =>
    unfold find? at found ⊢
    rw [List.find?_append, found]
    simp

theorem rowFor_spec (t : Table) (name guard : String) :
    t.rowFor name guard ∈ (t.offer name guard).rows ∧
      (t.rowFor name guard).key = (name, guard) :=
  find?_spec (find?_offer t name guard)

/-- The next number is behind all that were given, so a new row may have it. -/
theorem wellFormed_offer (h : t.WellFormed) (name guard : String) :
    (t.offer name guard).WellFormed := by
  have counter := h.counter
  by_cases old : (name, guard) ∈ t.keys
  · have rows := rows_offer_of_mem old
    refine ⟨?_, rows ▸ h.ids, fun r hr => ?_, by rw [counter_offer]; omega⟩
    · rw [keys_offer, if_pos old]
      exact h.keys
    · have := h.bounds r (rows ▸ hr)
      rw [counter_offer]
      omega
  · have rows := rows_offer_of_notMem old
    refine ⟨?_, ?_, fun r hr => ?_, by rw [counter_offer]; omega⟩
    · rw [keys_offer, if_neg old]
      exact h.keys.append (List.nodup_singleton _) (by simpa using old)
    · rw [rows, List.map_append]
      apply h.ids.append (List.nodup_singleton _)
      intro id known new
      obtain ⟨r, hr, rfl⟩ := List.mem_map.mp known
      have given : r.id ≤ t.counter := (h.bounds r hr).2
      have next : r.id = t.counter + 1 := List.mem_singleton.mp new
      omega
    · rw [rows, List.mem_append, List.mem_singleton] at hr
      rw [counter_offer]
      rcases hr with hr | rfl
      · have := h.bounds r hr
        omega
      · exact ⟨Int.lt_add_one_of_le counter, Int.le_refl _⟩

theorem Grows.refl (t : Table) : t.Grows t := ⟨Int.le_refl _, [], by simp, by simp⟩

theorem Grows.trans (h : t.Grows t') (h' : t'.Grows t'') : t.Grows t'' := by
  obtain ⟨new, rows, later⟩ := h.rows
  obtain ⟨new', rows', later'⟩ := h'.rows
  refine ⟨Int.le_trans h.counter h'.counter, new ++ new', by rw [rows', rows, List.append_assoc],
    fun r hr => ?_⟩
  rcases List.mem_append.mp hr with hr | hr
  · exact later r hr
  · exact Int.lt_of_le_of_lt h.counter (later' r hr)

theorem grows_offer (t : Table) (name guard : String) : t.Grows (t.offer name guard) := by
  refine ⟨by rw [counter_offer]; omega, ?_⟩
  by_cases old : (name, guard) ∈ t.keys
  · exact ⟨[], by rw [rows_offer_of_mem old, List.append_nil], by simp⟩
  · refine ⟨_, rows_offer_of_notMem old, fun r hr => ?_⟩
    rw [List.mem_singleton.mp hr]
    exact Int.lt_succ t.counter

theorem Grows.mem_rows (h : t.Grows t') (present : row ∈ t.rows) : row ∈ t'.rows := by
  obtain ⟨new, rows, -⟩ := h.rows
  exact rows ▸ List.mem_append_left new present

theorem Grows.find? (h : t.Grows t') (found : t.find? name guard = some row) :
    t'.find? name guard = some row := by
  obtain ⟨new, rows, -⟩ := h.rows
  unfold Table.find? at found ⊢
  rw [rows, List.find?_append, found, Option.some_or]

theorem Grows.hasId {id : Int} (h : t.Grows t') (known : t.hasId id = true) :
    t'.hasId id = true := by
  obtain ⟨r, hr, same⟩ := hasId_iff.mp known
  exact hasId_iff.mpr ⟨r, h.mem_rows hr, same⟩

/-- Without a new key there is no new row. -/
theorem Grows.rows_eq (h : t.Grows t') (wf : t'.WellFormed)
    (known : ∀ key ∈ t'.keys, key ∈ t.keys) : t'.rows = t.rows := by
  obtain ⟨new, rows, -⟩ := h.rows
  have keys : t'.keys = t.keys ++ new.map Row.key := by rw [Table.keys, rows, List.map_append, keys]
  cases new with
  | nil => rw [rows, List.append_nil]
  | cons r new =>
    have fresh : r.key ∈ (r :: new).map Row.key := List.mem_cons_self
    have old : r.key ∈ t.keys := known _ (keys ▸ List.mem_append_right _ fresh)
    exact absurd fresh ((List.disjoint_of_nodup_append (keys ▸ wf.keys)) old)

/-- New rows have numbers above those of all rows that were there. -/
theorem Grows.later (h : t.Grows t') (wf : t.WellFormed) :
    ∃ new, t'.rows = t.rows ++ new ∧ ∀ r ∈ new, ∀ old ∈ t.rows, old.id < r.id := by
  obtain ⟨new, rows, later⟩ := h.rows
  refine ⟨new, rows, fun r hr old hold => ?_⟩
  exact Int.lt_of_le_of_lt (wf.bounds old hold).2 (later r hr)

theorem offerAll_cons (t : Table) (key : String × String) (ks : List (String × String)) :
    t.offerAll (key :: ks) = (t.offer key.1 key.2).offerAll ks := rfl

theorem offerAll_append (t : Table) (ks ls : List (String × String)) :
    t.offerAll (ks ++ ls) = (t.offerAll ks).offerAll ls := List.foldl_append

theorem wellFormed_offerAll (h : t.WellFormed) (ks : List (String × String)) :
    (t.offerAll ks).WellFormed := by
  induction ks generalizing t with
  | nil => exact h
  | cons key ks ih => exact ih (wellFormed_offer h key.1 key.2)

theorem grows_offerAll (t : Table) (ks : List (String × String)) : t.Grows (t.offerAll ks) := by
  induction ks generalizing t with
  | nil => exact .refl t
  | cons key ks ih => exact (grows_offer t key.1 key.2).trans (ih _)

theorem mem_keys_offerAll {ks : List (String × String)} {key : String × String} :
    key ∈ (t.offerAll ks).keys ↔ key ∈ t.keys ∨ key ∈ ks := by
  induction ks generalizing t with
  | nil => simp [offerAll]
  | cons k ks ih =>
    rw [offerAll_cons, ih, mem_keys_offer, List.mem_cons]
    exact or_assoc

/-- The names that have a row in a guard, in the order of the rows. -/
def namesIn (t : Table) (guard : String) : List String :=
  (t.rows.filter (·.guard == guard)).map (·.name)

theorem mem_namesIn_iff : name ∈ t.namesIn guard ↔ (name, guard) ∈ t.keys := by
  simp only [namesIn, keys, List.mem_map, List.mem_filter, beq_iff_eq, Row.key, Prod.mk.injEq]
  grind

theorem namesIn_eq (t : Table) (guard : String) :
    t.namesIn guard = (t.keys.filter (·.2 == guard)).map Prod.fst := by
  simp only [namesIn, keys, List.filter_map, List.map_map]
  rfl

theorem nodup_namesIn (h : t.WellFormed) (guard : String) : (t.namesIn guard).Nodup := by
  rw [namesIn_eq]
  apply (h.keys.filter _).map_on
  intro a ha b hb same
  simp only [List.mem_filter, beq_iff_eq] at ha hb
  exact Prod.ext same (ha.2.trans hb.2.symm)

theorem namesIn_offer (t : Table) (name guard : String) :
    (t.offer name guard).namesIn guard =
      if name ∈ t.namesIn guard then t.namesIn guard else t.namesIn guard ++ [name] := by
  simp only [namesIn_eq _ guard, keys_offer, ← mem_namesIn_iff]
  split <;> simp

/-- Offering names to a guard adds those that it has not got. -/
theorem namesIn_offerAll (h : t.WellFormed) (guard : String) (names : List String) :
    (t.offerAll (names.map (·, guard))).namesIn guard = (t.namesIn guard ++ names).eraseDups := by
  induction names generalizing t with
  | nil =>
    rw [List.append_nil, eraseDups_of_nodup (nodup_namesIn h guard)]
    rfl
  | cons name names ih =>
    rw [List.map_cons, offerAll_cons, ih (wellFormed_offer h name guard), namesIn_offer,
      eraseDups_append_cons]

theorem map_name_filter (t : Table) (guard : String) (names : List String) :
    (t.rows.filter fun r => r.guard = guard ∧ r.name ∈ names).map (·.name) =
      (t.namesIn guard).filter (· ∈ names) := by
  simp [namesIn, List.filter_map, List.filter_filter, Function.comp_def, Bool.and_comm,
    Bool.beq_eq_decide_eq]

/-- Names that have rows in a guard find each its own. -/
theorem names_filter_perm (h : t.WellFormed) {names : List String} (nodup : names.Nodup)
    (known : ∀ n ∈ names, (n, guard) ∈ t.keys) :
    ((t.rows.filter fun r => r.guard = guard ∧ r.name ∈ names).map (·.name)).Perm names := by
  rw [map_name_filter, List.perm_ext_iff_of_nodup ((nodup_namesIn h guard).filter _) nodup]
  intro n
  rw [List.mem_filter, mem_namesIn_iff, decide_eq_true_iff]
  exact and_iff_right_of_imp (known n)

end Table

end Entitlements
