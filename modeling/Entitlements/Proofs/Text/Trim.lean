import Entitlements.Text.Blank
import Mathlib.Data.List.DropRight

set_option autoImplicit false

/-!
Trimmed texts. Trimming a second time takes nothing off; a text that is trimmed and not empty is
what names and items are made of, and it stays so with another one behind it.
-/

namespace Entitlements.Text

/-- What is left after both ends has no blank at the front. -/
theorem trimLeft_trimChars (cs : List Char) : trimLeft (trimChars cs) = trimChars cs := by
  have front : trimChars cs <+: trimLeft cs := List.rdropWhile_prefix blank _
  rw [trimLeft, List.dropWhile_eq_self_iff]
  intro some
  rw [front.getElem some]
  exact List.dropWhile_get_zero_not blank cs (some.trans_le front.length_le)

theorem trim_trim (s : String) : trim (trim s) = trim s := by
  rw [trim, trim, String.toList_ofList, trimChars, trimLeft_trimChars]
  exact congrArg String.ofList (List.rdropWhile_idempotent blank _)

theorem trim_eq_self_iff {s : String} :
    trim s = s ↔ trimLeft s.toList = s.toList ∧ trimLeft s.toList.reverse = s.toList.reverse := by
  rw [← String.toList_inj, trim, String.toList_ofList, ← List.reverse_eq_iff]
  constructor
  · intro same
    have front : trimLeft s.toList = s.toList := by
      rw [← same]
      exact trimLeft_trimChars s.toList
    rw [trimChars, front] at same
    exact ⟨front, same⟩
  · rintro ⟨front, back⟩
    rw [trimChars, front]
    exact back

/-- A text that starts visibly does so whatever follows. -/
theorem trimLeft_append {cs : List Char} (front : trimLeft cs = cs) (given : cs ≠ [])
    (rest : List Char) : trimLeft (cs ++ rest) = cs ++ rest := by
  obtain ⟨c, cs, rfl⟩ := List.exists_cons_of_ne_nil given
  have visible := List.dropWhile_eq_self_iff.mp front (by simp)
  exact List.dropWhile_cons_of_neg visible

theorem isBlank_eq_false_iff {s : String} : isBlank s = false ↔ trim s ≠ "" := by
  rw [Ne, trim_eq_empty_iff, Bool.not_eq_true]

/-- No blank at either end, and something between. -/
structure Trimmed (s : String) : Prop where
  trim : Text.trim s = s
  ne_empty : s ≠ ""

theorem trimmed_trim {s : String} (visible : trim s ≠ "") : Trimmed (trim s) :=
  ⟨trim_trim s, visible⟩

/-- Whatever stands between trimmed texts, the whole is trimmed. -/
theorem Trimmed.around {s t : String} (hs : Trimmed s) (ht : Trimmed t) (between : String) :
    Trimmed (s ++ between ++ t) := by
  obtain ⟨front, -⟩ := trim_eq_self_iff.mp hs.trim
  obtain ⟨-, back⟩ := trim_eq_self_iff.mp ht.trim
  have hs' : s.toList ≠ [] := by simpa using hs.ne_empty
  have ht' : t.toList.reverse ≠ [] := by simpa using ht.ne_empty
  constructor
  · rw [trim_eq_self_iff]
    simp only [String.toList_append, List.reverse_append, List.append_assoc]
    exact ⟨trimLeft_append front hs' _, trimLeft_append back ht' _⟩
  · simp [hs.ne_empty]

/-- Names without their outer blanks, blank ones left out. -/
def trimNames (names : List String) : List String := (names.map trim).filter (· ≠ "")

@[simp] theorem mem_trimNames {names : List String} {x : String} :
    x ∈ trimNames names ↔ x ≠ "" ∧ ∃ y ∈ names, trim y = x := by
  simp [trimNames, and_comm]

@[simp] theorem trimNames_nil : trimNames [] = [] := rfl

theorem trimNames_cons (name : String) (names : List String) :
    trimNames (name :: names) = if trim name = "" then trimNames names
      else trim name :: trimNames names := by
  by_cases blank : trim name = "" <;> simp [trimNames, blank]

theorem trimNames_of_trimmed {names : List String} (h : ∀ n ∈ names, Trimmed n) :
    trimNames names = names := by
  induction names with
  | nil => rfl
  | cons name names ih =>
    obtain ⟨first, rest⟩ := List.forall_mem_cons.mp h
    rw [trimNames_cons, first.trim, if_neg first.ne_empty, ih rest]

theorem trimNames_append (xs ys : List String) :
    trimNames (xs ++ ys) = trimNames xs ++ trimNames ys := by simp [trimNames]

end Entitlements.Text
