import Entitlements.Text.Blank

set_option autoImplicit false

/-!
Words put in a row and cut out again. A text is cut at every separator, so two texts with a
separator between them are cut one after the other; a row of words is cut into the pieces of its
words.
-/

namespace Entitlements.Text
variable {sep sep' : Char → Bool} {c : Char} {cs w : List Char}

theorem pieces_eq_splitOnP (sep : Char → Bool) (cs : List Char) :
    pieces sep cs = cs.splitOnP sep := by
  induction cs with
  | nil => rfl
  | cons c cs ih =>
    rw [pieces, List.splitOnP_cons_eq_if_modifyHead, ih]
    split
    · rfl
    · cases h : cs.splitOnP sep with
      | nil => exact absurd h (List.splitOnP_ne_nil sep cs)
      | cons w ws => rfl

theorem plain_of_mem_pieces (h : w ∈ pieces sep cs) : ∀ c ∈ w, sep c = false := by
  rw [pieces_eq_splitOnP] at h
  induction cs generalizing w with
  | nil =>
    rw [List.mem_singleton.mp h]
    exact fun c hc => nomatch hc
  | cons x xs ih =>
    rw [List.splitOnP_cons_eq_if_modifyHead] at h
    split at h
    · rcases List.mem_cons.mp h with rfl | h
      · exact fun c hc => nomatch hc
      · exact ih h
    · rename_i plain
      cases front : xs.splitOnP sep with
      | nil => exact absurd front (List.splitOnP_ne_nil sep xs)
      | cons v vs =>
        rw [front] at h ih
        rcases List.mem_cons.mp h with rfl | h
        · exact List.forall_mem_cons.mpr ⟨by simpa using plain, ih List.mem_cons_self⟩
        · exact ih (List.mem_cons_of_mem _ h)

theorem pieces_congr (same : ∀ c ∈ cs, sep c = sep' c) : pieces sep cs = pieces sep' cs := by
  induction cs with
  | nil => rfl
  | cons c cs ih =>
    obtain ⟨first, rest⟩ := List.forall_mem_cons.mp same
    rw [pieces, pieces, first, ih rest]

theorem pieces_map (f : Char → Char) (cs : List Char) :
    pieces sep (cs.map f) = (pieces (fun c => sep (f c)) cs).map (List.map f) := by
  induction cs with
  | nil => rfl
  | cons c cs ih =>
    rw [List.map_cons, pieces, pieces, ih]
    cases pieces (fun c => sep (f c)) cs <;> split <;> rfl

/-- Cutting takes out the separators and nothing else. -/
theorem flatten_pieces (sep : Char → Bool) (cs : List Char) :
    (pieces sep cs).flatten = cs.filter (!sep ·) := by
  induction cs with
  | nil => rfl
  | cons c cs ih =>
    rw [pieces]
    by_cases cut : sep c = true
    · rw [if_pos cut, List.filter_cons_of_neg (by simp [cut]), ← ih]
      rfl
    · rw [if_neg cut, List.filter_cons_of_pos (by simp [cut]), ← ih]
      cases pieces sep cs <;> rfl

theorem tokens_congr (same : ∀ c ∈ cs, sep c = sep' c) : tokens sep cs = tokens sep' cs := by
  rw [tokens, tokens, pieces_congr same]

theorem tokens_of_plain (given : w ≠ []) (plain : ∀ c ∈ w, sep c = false) :
    tokens sep w = [w] := by
  rw [tokens, pieces_eq_splitOnP, List.splitOnP_eq_singleton plain]
  exact List.filter_cons_of_pos (by simpa using given)

theorem ne_nil_of_mem_tokens (h : w ∈ tokens sep cs) : w ≠ [] := by
  rintro rfl
  cases (List.mem_filter.mp h).2

theorem plain_of_mem_tokens (h : w ∈ tokens sep cs) : ∀ c ∈ w, sep c = false :=
  plain_of_mem_pieces (List.mem_filter.mp h).1

theorem tokens_append (cut : sep c = true) (cs ds : List Char) :
    tokens sep (cs ++ c :: ds) = tokens sep cs ++ tokens sep ds := by
  simp only [tokens, pieces_eq_splitOnP, List.splitOnP_append_cons _ _ cut, List.filter_append]

theorem tokens_map (f : Char → Char) (cs : List Char) :
    tokens sep (cs.map f) = (tokens (fun c => sep (f c)) cs).map (List.map f) := by
  rw [tokens, tokens, pieces_map, List.filter_map]
  congr 2
  funext w
  simp

theorem flatten_tokens (sep : Char → Bool) (cs : List Char) :
    (tokens sep cs).flatten = cs.filter (!sep ·) := by
  rw [tokens, List.flatten_filter_not_isEmpty, flatten_pieces]

theorem mem_of_mem_tokens (h : w ∈ tokens sep cs) (hc : c ∈ w) : c ∈ cs := by
  have whole := List.mem_flatten_of_mem h hc
  rw [flatten_tokens] at whole
  exact (List.mem_filter.mp whole).1

theorem mem_unwords {ws : List (List Char)} (h : c ∈ unwords ws) :
    c = ' ' ∨ ∃ w ∈ ws, c ∈ w := by
  fun_induction unwords ws with
  | case1 => cases h
  | case2 w => exact .inr ⟨w, List.mem_singleton_self w, h⟩
  | case3 w ws _ ih =>
    rcases List.mem_append.mp h with first | rest
    · exact .inr ⟨w, List.mem_cons_self, first⟩
    · rcases List.mem_cons.mp rest with rfl | later
      · exact .inl rfl
      · rcases ih later with rfl | ⟨v, hv, within⟩
        · exact .inl rfl
        · exact .inr ⟨v, List.mem_cons_of_mem _ hv, within⟩

theorem mem_unwords_of_mem {ws : List (List Char)} (hw : w ∈ ws) (hc : c ∈ w) :
    c ∈ unwords ws := by
  fun_induction unwords ws with
  | case1 => cases hw
  | case2 v => exact List.mem_singleton.mp hw ▸ hc
  | case3 v ws _ ih =>
    rcases List.mem_cons.mp hw with rfl | later
    · exact List.mem_append_left _ hc
    · exact List.mem_append_right _ (List.mem_cons_of_mem _ (ih later))

theorem map_unwords {f : Char → Char} (space : f ' ' = ' ') (ws : List (List Char)) :
    (unwords ws).map f = unwords (ws.map (List.map f)) := by
  fun_induction unwords ws with
  | case1 => rfl
  | case2 w => rfl
  | case3 w ws more ih =>
    obtain ⟨v, ws, rfl⟩ := List.exists_cons_of_ne_nil (by simpa using more)
    rw [List.map_append, List.map_cons, space, ih]
    rfl

theorem filter_unwords {p : Char → Bool} (space : p ' ' = false) (ws : List (List Char)) :
    (unwords ws).filter p = ws.flatten.filter p := by
  fun_induction unwords ws with
  | case1 => rfl
  | case2 w => rw [List.flatten_singleton]
  | case3 w ws _ ih =>
    rw [List.filter_append, List.filter_cons_of_neg (by simp [space]), ih, List.flatten_cons,
      List.filter_append]

theorem pieces_unwords (space : sep ' ' = true) {ws : List (List Char)} (given : ws ≠ []) :
    pieces sep (unwords ws) = ws.flatMap (pieces sep) := by
  fun_induction unwords ws with
  | case1 => exact absurd rfl given
  | case2 w => exact (List.flatMap_singleton ..).symm
  | case3 w ws more ih =>
    rw [pieces_eq_splitOnP, List.splitOnP_append_cons _ _ space, ← pieces_eq_splitOnP,
      ← pieces_eq_splitOnP, ih (by simpa using more), List.flatMap_cons]

/-- Cutting a row of words leaves the words of its words. -/
theorem tokens_unwords (space : sep ' ' = true) (ws : List (List Char)) :
    tokens sep (unwords ws) = ws.flatMap (tokens sep) := by
  cases ws with
  | nil => rfl
  | cons w ws =>
    rw [tokens, pieces_unwords space (List.cons_ne_nil w ws), List.filter_flatMap]
    rfl

end Entitlements.Text
