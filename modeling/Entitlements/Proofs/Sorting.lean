set_option autoImplicit false

/-!
Sorted lists. Sorting is stable, so it may be done before or after a list is filtered. An order that
tells all elements apart leaves one sorted list, and distinct elements come out increasing.
-/

namespace Entitlements

section Sorting
variable {α : Type} {le : α → α → Bool}

/-- A new element goes behind those that it does not come before, and all others stay. -/
theorem mergeSort_cons_eq (trans : ∀ a b c, le a b → le b c → le a c)
    (total : ∀ a b, le a b || le b a) (x : α) (xs : List α) :
    let sorted := xs.mergeSort le
    (x :: xs).mergeSort le = sorted.filter (!le x ·) ++ x :: sorted.filter (le x ·) ∧
      sorted = sorted.filter (!le x ·) ++ sorted.filter (le x ·) := by
  intro sorted
  obtain ⟨front, back, whole, rest, less⟩ := List.mergeSort_cons trans total x xs
  have ordered := List.pairwise_mergeSort trans total (x :: xs)
  rw [whole, List.pairwise_append, List.pairwise_cons] at ordered
  have greater : ∀ b ∈ back, le x b := ordered.2.1.1
  have low : sorted.filter (!le x ·) = front := by
    have none : back.filter (!le x ·) = [] :=
      List.filter_eq_nil_iff.mpr fun b hb => by simp [greater b hb]
    rw [show sorted = front ++ back from rest, List.filter_append, none,
      List.filter_eq_self.mpr less, List.append_nil]
  have high : sorted.filter (le x ·) = back := by
    have none : front.filter (le x ·) = [] :=
      List.filter_eq_nil_iff.mpr fun b hb => by simpa using less b hb
    rw [show sorted = front ++ back from rest, List.filter_append, none,
      List.filter_eq_self.mpr greater, List.nil_append]
  rw [low, high]
  exact ⟨whole, rest⟩

/-- A list may be sorted first or filtered first. -/
theorem filter_mergeSort (trans : ∀ a b c, le a b → le b c → le a c)
    (total : ∀ a b, le a b || le b a) (p : α → Bool) (xs : List α) :
    (xs.mergeSort le).filter p = (xs.filter p).mergeSort le := by
  induction xs with
  | nil => simp
  | cons x xs ih =>
    obtain ⟨whole, parts⟩ := mergeSort_cons_eq trans total x xs
    rw [whole, List.filter_append]
    by_cases h : p x = true
    · rw [List.filter_cons_of_pos h, List.filter_cons_of_pos h,
        (mergeSort_cons_eq trans total x (xs.filter p)).1, ← ih]
      simp only [List.filter_filter, Bool.and_comm]
    · rw [List.filter_cons_of_neg h, List.filter_cons_of_neg h, ← List.filter_append, ← parts, ih]

theorem mergeSort_eq_of_perm (trans : ∀ a b c, le a b → le b c → le a c)
    (total : ∀ a b, le a b || le b a) (antisymm : ∀ a b, le a b → le b a → a = b)
    {xs ys : List α} (perm : xs.Perm ys) : xs.mergeSort le = ys.mergeSort le := by
  apply List.Perm.eq_of_pairwise fun a b _ _ => antisymm a b
  · exact List.pairwise_mergeSort trans total xs
  · exact List.pairwise_mergeSort trans total ys
  · exact (List.mergeSort_perm xs le).trans (perm.trans (List.mergeSort_perm ys le).symm)

end Sorting

theorem increasing_mergeSort {α : Type} [LE α] [LT α] [DecidableLE α] [Std.IsLinearOrder α]
    [Std.LawfulOrderLT α] {xs : List α} (distinct : xs.Nodup) :
    (xs.mergeSort fun a b => decide (a ≤ b)).Pairwise (· < ·) := by
  have sorted : (xs.mergeSort fun a b => decide (a ≤ b)).Pairwise fun a b =>
      decide (a ≤ b) = true := by
    apply List.pairwise_mergeSort
    · intro a b c hab hbc
      simp only [decide_eq_true_eq] at *
      exact Std.le_trans hab hbc
    · intro a b
      simpa using Std.le_total
  have apart := (List.mergeSort_perm xs fun a b => decide (a ≤ b)).nodup_iff.mpr distinct
  rw [List.nodup_iff_pairwise_ne] at apart
  exact (sorted.and apart).imp fun ⟨le, ne⟩ => Std.lt_of_le_of_ne (of_decide_eq_true le) ne

end Entitlements
