import Entitlements.Text.Blank
import Entitlements.Text.Case

set_option autoImplicit false

/-!
Small letters. Nothing that comes out of the mapping is changed by it, so lowering twice is lowering
once. A character that is neither cased nor ignorable parts a text: no sigma on one side of it
depends on what stands on the other.
-/

namespace Entitlements.Text

namespace Run
variable {r : Run} {runs : List Run} {n : Nat}

/-- The code points that a run moves. -/
def Covers (r : Run) (n : Nat) : Prop :=
  r.first ≤ n ∧ n ≤ r.last ∧ (n - r.first) % r.step = 0

theorem apply_cases (runs : List Run) (n : Nat) :
    apply runs n = n ∨ ∃ r ∈ runs, r.Covers n ∧ apply runs n = r.image + (n - r.first) := by
  induction runs with
  | nil => exact .inl rfl
  | cons r rest ih =>
    rw [apply]
    split
    · exact .inl rfl
    split
    · rename_i above covered
      exact .inr ⟨r, List.mem_cons_self, ⟨Nat.not_lt.mp above, covered⟩, rfl⟩
    · rcases ih with same | ⟨q, hq, covered, moved⟩
      · exact .inl same
      · exact .inr ⟨q, List.mem_cons_of_mem r hq, covered, moved⟩

/-- Runs that move none of the code points from `low` to `high` at a pace: they lie apart, or go at
the same pace and never meet. -/
def spare (low high step : Nat) : List Run → Bool
  | [] => true
  | r :: rest => high.blt r.first ||
    ((r.last.blt low || ((step.beq r.step || low.beq high) && !(low % r.step).beq (r.first % r.step)))
      && spare low high step rest)

theorem apply_of_spare {low high step : Nat} (h : spare low high step runs = true)
    (above : low ≤ n) (below : n ≤ high) (pace : (n - low) % step = 0) : apply runs n = n := by
  induction runs with
  | nil => rfl
  | cons r rest ih =>
    simp only [spare, Bool.or_eq_true, Bool.and_eq_true, Bool.not_eq_true', Nat.blt_eq, Nat.beq_eq,
      ← Bool.not_eq_true] at h
    rw [apply]
    split
    · rfl
    rename_i started
    rcases h with later | ⟨apart, h⟩
    · omega
    rw [if_neg, ih h]
    rintro ⟨ended, met⟩
    rcases apart with before | ⟨same, unmet⟩
    · omega
    · -- Both ends have their remainders from the point where they would meet.
      have onward : (n - low) % r.step = 0 := by
        rcases same with same | single
        · rwa [← same]
        · rw [show n - low = 0 by omega, Nat.zero_mod]
      have forth : (low + (n - low)) % r.step = low % r.step := by
        rw [Nat.add_mod, onward, Nat.add_zero, Nat.mod_mod]
      have back : (r.first + (n - r.first)) % r.step = r.first % r.step := by
        rw [Nat.add_mod, met, Nat.add_zero, Nat.mod_mod]
      rw [Nat.add_sub_cancel' above] at forth
      rw [Nat.add_sub_cancel' (Nat.not_lt.mp started), forth] at back
      exact unmet back

/-- What a table gives it leaves alone when it spares the images of its runs. -/
theorem apply_apply (h : ∀ r ∈ runs, spare r.image (r.image + (r.last - r.first)) r.step runs = true)
    (n : Nat) : apply runs (apply runs n) = apply runs n := by
  rcases apply_cases runs n with same | ⟨r, hr, ⟨first, last, pace⟩, moved⟩
  · rw [same, same]
  · rw [moved]
    apply apply_of_spare (h r hr) (Nat.le_add_right ..)
    · omega
    · rwa [Nat.add_sub_cancel_left]

end Run

theorem apply_lowerRuns (n : Nat) :
    Run.apply lowerRuns (Run.apply lowerRuns n) = Run.apply lowerRuns n := by
  have spared : (lowerRuns.all fun r =>
      Run.spare r.image (r.image + (r.last - r.first)) r.step lowerRuns) = true := by
    decide +kernel
  exact Run.apply_apply (List.all_eq_true.mp spared) n

/-- The capital that becomes two characters is no image of another. -/
theorem apply_lowerRuns_ne {n : Nat} (other : n ≠ 0x130) : Run.apply lowerRuns n ≠ 0x130 := by
  have apart : ∀ r ∈ lowerRuns, 0x130 < r.image ∨ r.image + (r.last - r.first) < 0x130 := by
    decide +kernel
  rcases Run.apply_cases lowerRuns n with same | ⟨r, hr, ⟨first, last, -⟩, moved⟩
  · rwa [same]
  · rw [moved]
    have := apart r hr
    omega

/-- A character that lowering leaves as it is, wherever it stands. -/
structure Small (c : Char) : Prop where
  ne_sigma : c ≠ 'Σ'
  lowerChar : lowerChar c = [c]

theorem small_of_apply {c : Char} (other : c ≠ 'İ')
    (same : Run.apply lowerRuns c.toNat = c.toNat) : Small c := by
  constructor
  · rintro rfl
    exact absurd same (by decide +kernel)
  · rw [lowerChar, if_neg other, same, Char.ofNat_toNat]

theorem small_of_mem_lowerChar {c d : Char} (h : d ∈ lowerChar c) : Small d := by
  unfold lowerChar at h
  split at h
  · -- The two characters of the dotted capital.
    simp only [List.mem_cons, List.not_mem_nil, or_false] at h
    rcases h with rfl | rfl <;> exact small_of_apply (by decide) (by decide +kernel)
  · rename_i other
    have moved : c.toNat ≠ 0x130 := fun same => other (Char.toNat_inj.mp same)
    rw [List.mem_singleton] at h
    subst h
    by_cases valid : (Run.apply lowerRuns c.toNat).isValidChar
    · have code : (Char.ofNat (Run.apply lowerRuns c.toNat)).toNat =
          Run.apply lowerRuns c.toNat := by
        rw [Char.ofNat, dif_pos valid]
        rfl
      apply small_of_apply
      · intro dotted
        rw [dotted] at code
        exact apply_lowerRuns_ne moved code.symm
      · rw [code, apply_lowerRuns]
    · rw [Char.ofNat, dif_neg valid]
      exact small_of_apply (by decide) (by decide +kernel)

theorem small_of_mem_lowerFrom {d : Char} {before cs : List Char} (h : d ∈ lowerFrom before cs) :
    Small d := by
  induction cs generalizing before with
  | nil => cases h
  | cons c cs ih =>
    rw [lowerFrom, List.mem_append] at h
    rcases h with here | later
    · split at here
      · rw [List.mem_singleton] at here
        split at here <;> subst here <;> exact small_of_apply (by decide) (by decide +kernel)
      · exact small_of_mem_lowerChar here
    · exact ih later

theorem lowerFrom_of_small {before cs : List Char} (small : ∀ c ∈ cs, Small c) :
    lowerFrom before cs = cs := by
  induction cs generalizing before with
  | nil => rfl
  | cons c cs ih =>
    obtain ⟨first, rest⟩ := List.forall_mem_cons.mp small
    rw [lowerFrom, if_neg first.ne_sigma, first.lowerChar, ih rest, List.singleton_append]

/-- No sigma looks past it. -/
structure Parts (c : Char) : Prop where
  uncased : cased c = false
  regarded : caseIgnorable c = false

theorem Parts.ne_sigma {c : Char} (h : Parts c) : c ≠ 'Σ' := by
  rintro rfl
  exact absurd h.uncased (by decide +kernel)

variable {x : Char} {before after cs ds : List Char}

theorem casedNext_cons (c : Char) (cs : List Char) :
    casedNext (c :: cs) = if caseIgnorable c then casedNext cs else cased c := by
  unfold casedNext
  by_cases ignored : caseIgnorable c = true
  · rw [List.dropWhile_cons_of_pos ignored, if_pos ignored]
  · rw [List.dropWhile_cons_of_neg ignored, if_neg ignored]

theorem Parts.casedNext_cons {c : Char} (h : Parts c) (cs : List Char) :
    casedNext (c :: cs) = false := by
  rw [Text.casedNext_cons, if_neg (by simp [h.regarded]), h.uncased]

theorem casedNext_append (parts : Parts x) (cs ds : List Char) :
    casedNext (cs ++ x :: ds) = casedNext cs := by
  induction cs with
  | nil => exact parts.casedNext_cons ds
  | cons c cs ih => rw [List.cons_append, casedNext_cons, casedNext_cons, ih]

theorem lowerFrom_append_before (parts : Parts x) (before past cs : List Char) :
    lowerFrom (before ++ x :: past) cs = lowerFrom before cs := by
  induction cs generalizing before with
  | nil => rfl
  | cons c cs ih =>
    rw [lowerFrom, lowerFrom, endsWord, endsWord, casedNext_append parts, ← List.cons_append, ih]

/-- What stands behind a parting character is lowered by itself. -/
theorem lowerFrom_append (parts : Parts x) (before cs ds : List Char) :
    lowerFrom before (cs ++ x :: ds) = lowerFrom before cs ++ lowerChar x ++ lowerChars ds := by
  induction cs generalizing before with
  | nil =>
    rw [List.nil_append, lowerFrom.eq_2, if_neg parts.ne_sigma]
    exact congrArg _ (lowerFrom_append_before parts [] before ds)
  | cons c cs ih =>
    rw [List.cons_append, lowerFrom, lowerFrom, endsWord, endsWord, casedNext_append parts, ih]
    simp only [List.append_assoc]

theorem Ranges.exists_of_covers {r : Ranges} {n : Nat} (h : r.covers n = true) :
    ∃ p ∈ r, p.1 ≤ n ∧ n ≤ p.2 := by
  induction r with
  | nil => cases h
  | cons p rest ih =>
    simp only [covers, Bool.and_eq_true, Bool.or_eq_true, decide_eq_true_eq] at h
    rcases h with ⟨above, below | later⟩
    · exact ⟨p, List.mem_cons_self, above, below⟩
    · obtain ⟨q, hq, inside⟩ := ih later
      exact ⟨q, List.mem_cons_of_mem p hq, inside⟩

/-- Blanks have no case and are not ignored for it. -/
theorem caseless_of_blank (h : blank x = true) : cased x = false ∧ caseIgnorable x = false ∧
    Run.apply lowerRuns x.toNat = x.toNat := by
  have all : ∀ p ∈ blankRanges, ∀ k < p.2 + 1 - p.1, casedRanges.covers (p.1 + k) = false ∧
      ignorableRanges.covers (p.1 + k) = false ∧ Run.apply lowerRuns (p.1 + k) = p.1 + k := by
    decide +kernel
  obtain ⟨p, hp, above, below⟩ := Ranges.exists_of_covers h
  have caseless := all p hp (x.toNat - p.1) (by omega)
  rwa [Nat.add_sub_cancel' above] at caseless

theorem parts_of_blank (h : blank x = true) : Parts x :=
  ⟨(caseless_of_blank h).1, (caseless_of_blank h).2.1⟩

theorem small_of_blank (h : blank x = true) : Small x := by
  apply small_of_apply _ (caseless_of_blank h).2.2
  rintro rfl
  exact absurd h (by decide +kernel)

end Entitlements.Text
