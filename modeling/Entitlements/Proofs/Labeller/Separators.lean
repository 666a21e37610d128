import Entitlements.Proofs.Labeller.Keys

set_option autoImplicit false

/-!
Names with spaces for separators. Small letters are made before separators become spaces, and a
capital sigma looks past a dot or a colon, but not past a space, for the end of its word. So a name
keeps its key when its sigmas keep their forms, and only then; otherwise the two keys differ in
these forms alone.
-/

namespace Entitlements.Labeller
open Text (Parts casedNext endsWord lowerChar lowerChars lowerFrom)

/-- One character for another: the same, or a space for one of the marks. -/
def Respells (marks : List Char) (c d : Char) : Prop := d = c ∨ c ∈ marks ∧ d = ' '

instance (marks : List Char) (c d : Char) : Decidable (Respells marks c d) :=
  inferInstanceAs (Decidable (d = c ∨ c ∈ marks ∧ d = ' '))

/-- For each capital sigma in turn, whether it ends a word. -/
def sigmaForms (before : List Char) : List Char → List Bool
  | [] => []
  | c :: cs =>
    if c = 'Σ' then endsWord before cs :: sigmaForms (c :: before) cs
    else sigmaForms (c :: before) cs

/-- The forms of small sigma taken for one. -/
def unfinal (c : Char) : Char := if c = 'ς' then 'σ' else c

section Respelt
variable {marks : List Char} {c d : Char} {before before' cs ds : List Char} {s s' : String}

theorem sigmaForms_of_notMem (plain : 'Σ' ∉ cs) (before : List Char) : sigmaForms before cs = [] := by
  induction cs generalizing before with
  | nil => rfl
  | cons c cs ih =>
    obtain ⟨other, plain⟩ := not_or.mp (List.mem_cons.not.mp plain)
    rw [sigmaForms, if_neg (Ne.symm other), ih plain]

/-- A sigma stays as it is, and all else has one reading in both spellings. -/
theorem Respells.cases (h : Respells ['.', '-', ':', '/'] c d) :
    c = 'Σ' ∧ d = 'Σ' ∨
      (c ≠ 'Σ' ∧ d ≠ 'Σ') ∧ (lowerChar c).map spaced = (lowerChar d).map spaced := by
  rcases h with rfl | ⟨mark, rfl⟩
  · by_cases sigma : d = 'Σ'
    · exact .inl ⟨sigma, sigma⟩
    · exact .inr ⟨⟨sigma, sigma⟩, rfl⟩
  · simp only [List.mem_cons, List.not_mem_nil, or_false] at mark
    rcases mark with rfl | rfl | rfl | rfl <;> exact .inr (by decide +kernel)

/-- Both spellings are read alike where the forms of sigma are the same or do not matter. -/
theorem map_lowerFrom_respelt {f : Char → Char}
    (h : List.Forall₂ (Respells ['.', '-', ':', '/']) cs ds)
    (alike : f 'ς' = f 'σ' ∨ sigmaForms before cs = sigmaForms before' ds) :
    ((lowerFrom before cs).map spaced).map f = ((lowerFrom before' ds).map spaced).map f := by
  induction h generalizing before before' with
  | nil => rfl
  | @cons c d cs ds first rest ih =>
    rw [lowerFrom, lowerFrom, List.map_append, List.map_append, List.map_append, List.map_append]
    rcases first.cases with ⟨rfl, rfl⟩ | ⟨⟨hc, hd⟩, same⟩
    · rw [sigmaForms, sigmaForms, if_pos rfl, if_pos rfl, List.cons.injEq] at alike
      rw [if_pos rfl, if_pos rfl, ih (alike.imp_right And.right)]
      congr 1
      rcases alike with one | ⟨ends, -⟩
      · split <;> split <;> simp [spaced, separator, one]
      · rw [ends]
    · rw [sigmaForms, sigmaForms, if_neg hc, if_neg hd] at alike
      rw [if_neg hc, if_neg hd, ih alike, same]

/-- The forms of capital sigmas are told by the small ones they become. -/
theorem sigmaForms_eq_of_filter (h : List.Forall₂ (Respells ['.', '-', ':', '/']) cs ds)
    (same : ((lowerFrom before cs).map spaced).filter (unfinal · == 'σ') =
      ((lowerFrom before' ds).map spaced).filter (unfinal · == 'σ')) :
    sigmaForms before cs = sigmaForms before' ds := by
  induction h generalizing before before' with
  | nil => rfl
  | @cons c d cs ds first rest ih =>
    simp only [lowerFrom, List.map_append, List.filter_append] at same
    rcases first.cases with ⟨rfl, rfl⟩ | ⟨⟨hc, hd⟩, one⟩
    · have kept (b : Bool) : ([if b then 'ς' else 'σ'].map spaced).filter (unfinal · == 'σ') =
          [if b then 'ς' else 'σ'] := by cases b <;> decide
      rw [if_pos rfl, if_pos rfl, kept, kept, List.singleton_append, List.singleton_append,
        List.cons.injEq] at same
      rw [sigmaForms, sigmaForms, if_pos rfl, if_pos rfl, ih same.2, List.cons.injEq]
      refine ⟨?_, rfl⟩
      revert same
      cases endsWord before cs <;> cases endsWord before' ds <;> simp
    · rw [if_neg hc, if_neg hd, one, List.append_cancel_left_eq] at same
      rw [sigmaForms, sigmaForms, if_neg hc, if_neg hd, ih same]

theorem casedNext_of_parts (h : List.Forall₂ (fun c d => d = c ∨ Parts c ∧ Parts d) cs ds) :
    casedNext cs = casedNext ds := by
  induction h with
  | nil => rfl
  | @cons c d cs ds first rest ih =>
    rcases first with rfl | ⟨hc, hd⟩
    · rw [Text.casedNext_cons, Text.casedNext_cons, ih]
    · rw [hc.casedNext_cons, hd.casedNext_cons]

/-- A sigma keeps its form where marks that end words stand for each other. -/
theorem sigmaForms_of_parts (h : List.Forall₂ (fun c d => d = c ∨ Parts c ∧ Parts d) cs ds)
    (past : List.Forall₂ (fun c d => d = c ∨ Parts c ∧ Parts d) before before') :
    sigmaForms before cs = sigmaForms before' ds := by
  induction h generalizing before before' with
  | nil => rfl
  | @cons c d cs ds first rest ih =>
    rw [sigmaForms, sigmaForms, ih (past.cons first)]
    rcases first with rfl | ⟨hc, hd⟩
    · rw [endsWord, endsWord, casedNext_of_parts past, casedNext_of_parts rest]
    · rw [if_neg hc.ne_sigma, if_neg hd.ne_sigma]

theorem sigma_notMem_respelt (h : List.Forall₂ (Respells ['.', '-', ':', '/']) cs ds)
    (plain : 'Σ' ∉ cs) : 'Σ' ∉ ds := by
  induction h with
  | nil => exact List.not_mem_nil
  | @cons c d cs ds first rest ih =>
    obtain ⟨other, plain⟩ := not_or.mp (List.mem_cons.not.mp plain)
    rw [List.mem_cons, not_or]
    refine ⟨?_, ih plain⟩
    rcases first.cases with ⟨rfl, -⟩ | ⟨⟨-, hd⟩, -⟩
    · exact absurd rfl other
    · exact hd.symm

theorem blank_unfinal (c : Char) : Text.blank (unfinal c) = Text.blank c := by
  unfold unfinal
  split
  · rename_i final
    rw [final]
    decide
  · rfl

/-- Sigmas of one form or of either make no difference to the words of a key. -/
theorem map_normalizeChars {f : Char → Char} (kept : ∀ c, Text.blank (f c) = Text.blank c)
    (space : f ' ' = ' ') (cs : List Char) : (normalizeChars cs).map f =
      Text.unwords (Text.tokens Text.blank (((lowerChars cs).map spaced).map f)) := by
  rw [normalizeChars_eq, lowered, Text.map_unwords space, Text.tokens_map f]
  simp only [kept]

theorem filter_normalizeChars {p : Char → Bool} (visible : ∀ c, Text.blank c = true → p c = false)
    (cs : List Char) : (normalizeChars cs).filter p = ((lowerChars cs).map spaced).filter p := by
  have all : ∀ c, (p c && !Text.blank c) = p c := by
    intro c
    cases blank : Text.blank c with
    | true => rw [visible c blank, Bool.false_and]
    | false => rw [Bool.not_false, Bool.and_true]
  rw [normalizeChars_eq, Text.filter_unwords (visible ' ' (by decide)), lowered,
    Text.flatten_tokens, List.filter_filter]
  simp only [all]

theorem normalizeKey_eq_iff (h : List.Forall₂ (Respells ['.', '-', ':', '/']) s.toList s'.toList) :
    normalizeKey s = normalizeKey s' ↔ sigmaForms [] s.toList = sigmaForms [] s'.toList := by
  constructor
  · intro same
    have visible : ∀ c, Text.blank c = true → (unfinal c == 'σ') = false := by
      intro c blank
      rw [beq_eq_false_iff_ne]
      intro sigma
      rw [← blank_unfinal, sigma] at blank
      exact absurd blank (by decide)
    have letters := congrArg (fun key : String => key.toList.filter (unfinal · == 'σ')) same
    simp only [normalizeKey, String.toList_ofList, filter_normalizeChars visible] at letters
    exact sigmaForms_eq_of_filter h letters
  · intro same
    have read := @map_lowerFrom_respelt [] [] _ _ id h (.inr same)
    rw [List.map_id, List.map_id] at read
    rw [normalizeKey, normalizeKey, normalizeChars_eq, normalizeChars_eq, lowered, lowered,
      lowerChars, lowerChars, read]

theorem map_unfinal_normalizeKey
    (h : List.Forall₂ (Respells ['.', '-', ':', '/']) s.toList s'.toList) :
    (normalizeKey s).toList.map unfinal = (normalizeKey s').toList.map unfinal := by
  simp only [normalizeKey, String.toList_ofList]
  rw [map_normalizeChars blank_unfinal rfl, map_normalizeChars blank_unfinal rfl, lowerChars,
    lowerChars, map_lowerFrom_respelt h (.inl rfl)]

/-- Two spellings of a name have one key just when each capital sigma ends a word in both or in
neither, and then they have one label or none. So it is when there is no capital sigma, and when
dots and colons are left; otherwise the keys differ in the forms of small sigma alone. -/
theorem keys_of_respelt {s s' : String}
    (h : List.Forall₂ (Respells ['.', '-', ':', '/']) s.toList s'.toList) :
    (normalizeKey s = normalizeKey s' ↔ sigmaForms [] s.toList = sigmaForms [] s'.toList) ∧
    ('Σ' ∉ s.toList → normalizeKey s = normalizeKey s') ∧
    (List.Forall₂ (Respells ['-', '/']) s.toList s'.toList → normalizeKey s = normalizeKey s') ∧
    (normalizeKey s).toList.map unfinal = (normalizeKey s').toList.map unfinal ∧
    (normalizeKey s = normalizeKey s' →
      ∀ t : Labeller, t.label s = t.label s' ∨ t.label s = s ∧ t.label s' = s') := by
  have keys := normalizeKey_eq_iff h
  refine ⟨keys, fun plain => ?_, fun dashed => ?_, map_unfinal_normalizeKey h, label_of_same_key⟩
  · rw [keys, sigmaForms_of_notMem plain, sigmaForms_of_notMem (sigma_notMem_respelt h plain)]
  · have parts {c : Char} (hc : c ∈ ['-', '/', ' ']) : Parts c := by
      simp only [List.mem_cons, List.not_mem_nil, or_false] at hc
      rcases hc with rfl | rfl | rfl <;> exact ⟨by decide +kernel, by decide +kernel⟩
    rw [keys]
    apply sigmaForms_of_parts _ List.Forall₂.nil
    refine dashed.imp fun c d first => first.imp_right ?_
    rintro ⟨mark, rfl⟩
    exact ⟨parts (List.mem_append_left [' '] mark), parts (by simp)⟩

/-- Before a dash a sigma ends its word, as before a space. -/
theorem keys_of_respelt_dashed :
    let s := "ΟΔΟΣ-Read:all.Users"
    let s' := "ΟΔΟΣ Read all Users"
    let t := new ((∅ : Dictionary).addLines "el" [("special.οδος read all users", "Όλα")]) "el"
    List.Forall₂ (Respells ['.', '-', ':', '/']) s.toList s'.toList ∧
      normalizeKey s = normalizeKey s' ∧ t.label s = "Όλα" ∧ t.label s' = "Όλα" := by
  intro s s' t
  have h : List.Forall₂ (Respells ['.', '-', ':', '/']) s.toList s'.toList := by decide +kernel
  obtain ⟨keys, -, -, -, labels⟩ := keys_of_respelt h
  have same : normalizeKey s = normalizeKey s' := keys.mpr (by decide +kernel)
  have found : t.label s = "Όλα" := by decide +kernel
  refine ⟨h, same, found, ?_⟩
  rcases labels same t with alike | ⟨verbatim, -⟩
  · rw [← alike, found]
  · rw [found] at verbatim
    exact absurd verbatim (by decide)

/-- Before a dot a sigma looks at the next word, and before a space it does not. -/
theorem dotted_sigma_is_not_final :
    ¬ ∀ s s' : String, List.Forall₂ (Respells ['.', '-', ':', '/']) s.toList s'.toList →
      normalizeKey s = normalizeKey s' := by
  intro all
  have same := all "ΑΣ.Α" "ΑΣ Α" (by decide +kernel)
  exact absurd same (by decide +kernel)

end Respelt
end Entitlements.Labeller
