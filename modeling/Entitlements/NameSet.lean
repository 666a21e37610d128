set_option autoImplicit false

/-!
Sets of names that remember the order in which their members came.
-/

namespace Entitlements

section FirstOccurrences
variable {α : Type}

theorem nodup_concat {xs : List α} {x : α} (h : xs.Nodup) (new : x ∉ xs) : (xs ++ [x]).Nodup :=
  List.nodup_append.mpr ⟨h, by simp, by grind⟩

variable [DecidableEq α]

theorem eraseDups_eq_nil {xs : List α} : xs.eraseDups = [] ↔ xs = [] := by
  cases xs <;> simp [List.eraseDups_cons]

theorem nodup_eraseDups : (xs : List α) → xs.eraseDups.Nodup
  | [] => by simp
  | x :: xs => by
    rw [List.eraseDups_cons, List.nodup_cons, List.mem_eraseDups]
    exact ⟨by simp, nodup_eraseDups (xs.filter fun y => !y == x)⟩
termination_by xs => xs.length
decreasing_by exact Nat.lt_succ_of_le (List.length_filter_le _ xs)

theorem eraseDups_of_nodup {xs : List α} (h : xs.Nodup) : xs.eraseDups = xs := by
  induction xs with
  | nil => rfl
  | cons x xs ih =>
    obtain ⟨new, nodup⟩ := List.nodup_cons.mp h
    have kept : xs.filter (fun y => !y == x) = xs := List.filter_eq_self.mpr (by grind)
    rw [List.eraseDups_cons, kept, ih nodup]

/-- Repetitions may be dropped from the front part first. -/
theorem eraseDups_append_eraseDups (xs ys : List α) :
    (xs.eraseDups ++ ys).eraseDups = (xs ++ ys).eraseDups := by
  have rest : ys.removeAll xs.eraseDups = ys.removeAll xs := by
    simp [List.removeAll, List.elem_eq_contains]
  rw [List.eraseDups_append, List.eraseDups_append, eraseDups_of_nodup (nodup_eraseDups xs), rest]

/-- The first entry of the rear part comes next unless it was there. -/
theorem eraseDups_append_cons (xs : List α) (y : α) (ys : List α) :
    (xs ++ y :: ys).eraseDups = ((if y ∈ xs then xs else xs ++ [y]) ++ ys).eraseDups := by
  split
  · rename_i old
    have kept : (y :: ys).removeAll xs = ys.removeAll xs := by simp [List.removeAll, old]
    rw [List.eraseDups_append, List.eraseDups_append, kept]
  · rw [List.append_assoc, List.singleton_append]

theorem eraseDups_append_of_nodup {xs ys : List α} (hx : xs.Nodup) (hy : ys.Nodup) :
    (xs ++ ys).eraseDups = xs ++ ys.filter (· ∉ xs) := by
  have rest : ys.removeAll xs = ys.filter (· ∉ xs) := by simp [List.removeAll]
  rw [List.eraseDups_append, eraseDups_of_nodup hx, rest, eraseDups_of_nodup (hy.filter _)]

/-- A rear part that has nothing new adds nothing. -/
theorem eraseDups_append_of_subset {xs ys : List α} (old : ys ⊆ xs) :
    (xs ++ ys).eraseDups = xs.eraseDups := by
  have rest : ys.removeAll xs = [] := by
    rw [List.removeAll, List.filter_eq_nil_iff]
    intro y hy
    simpa using old hy
  rw [List.eraseDups_append, rest, List.eraseDups_nil, List.append_nil]

end FirstOccurrences

structure NameSet where
  toList : List String
  nodup : toList.Nodup := by simp
  deriving DecidableEq, Repr

namespace NameSet

instance : EmptyCollection NameSet := ⟨{ toList := [] }⟩

/-- A new name goes to the end. -/
def insert (s : NameSet) (name : String) : NameSet :=
  if h : name ∈ s.toList then s else ⟨s.toList ++ [name], nodup_concat s.nodup h⟩

def insertAll (s : NameSet) (names : List String) : NameSet := names.foldl insert s

def ofList (names : List String) : NameSet := insertAll ∅ names

@[ext] theorem ext {s t : NameSet} (h : s.toList = t.toList) : s = t := by
  cases s; cases t; simp_all

@[simp] theorem toList_empty : (∅ : NameSet).toList = [] := rfl

theorem toList_insert (s : NameSet) (name : String) :
    (s.insert name).toList = if name ∈ s.toList then s.toList else s.toList ++ [name] := by
  unfold insert
  split <;> rfl

@[simp] theorem insertAll_nil (s : NameSet) : s.insertAll [] = s := rfl

@[simp] theorem insertAll_cons (s : NameSet) (name : String) (names : List String) :
    s.insertAll (name :: names) = (s.insert name).insertAll names := rfl

theorem insertAll_append (s : NameSet) (xs ys : List String) :
    s.insertAll (xs ++ ys) = (s.insertAll xs).insertAll ys := List.foldl_append ..

/-- Inserting names one by one keeps the first occurrence of each. -/
theorem toList_insertAll (s : NameSet) (names : List String) :
    (s.insertAll names).toList = (s.toList ++ names).eraseDups := by
  induction names generalizing s with
  | nil => simp [eraseDups_of_nodup s.nodup]
  | cons n ns ih => rw [insertAll_cons, ih, toList_insert, eraseDups_append_cons]

@[simp] theorem toList_ofList (names : List String) : (ofList names).toList = names.eraseDups :=
  toList_insertAll ∅ names

end NameSet

end Entitlements
