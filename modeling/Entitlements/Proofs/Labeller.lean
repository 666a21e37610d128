import Entitlements.Labeller
import Entitlements.Proofs.Text.Words
import Mathlib.Data.List.Basic

set_option autoImplicit false

/-!
Names as rows of words. The key of a name is a row of words, and a resource without an entry of its
own is read word by word, where underscores part words too.
-/

namespace Entitlements

/-- A word is not empty and has no blanks. -/
structure Word (w : String) : Prop where
  ne_empty : w ≠ ""
  plain : ∀ c ∈ w.toList, Text.blank c = false

theorem Word.no_space {w : String} (h : Word w) : ' ' ∉ w.toList :=
  fun space => absurd (h.plain ' ' space) (by decide)

namespace Labeller

section Rows
variable {sep : Char → Bool} {w : String} {ws : List String}

/-- Words that are left whole are left in their row. -/
theorem flatMap_of_whole {cut : String → List String} (whole : ∀ w ∈ ws, cut w = [w]) :
    ws.flatMap cut = ws := by
  rw [List.flatMap_congr whole, List.flatMap_singleton']

theorem splitWhere_of_plain (plain : ∀ c ∈ w.toList, sep c = false) :
    Text.splitWhere sep w = [w] := by
  rw [Text.splitWhere, Text.pieces_eq_splitOnP, List.splitOnP_eq_singleton plain]
  simp

theorem tokensWhere_of_plain (given : w ≠ "") (plain : ∀ c ∈ w.toList, sep c = false) :
    Text.tokensWhere sep w = [w] := by
  rw [Text.tokensWhere, Text.tokens_of_plain (by simpa using given) plain]
  simp

theorem splitWhere_sentence (space : sep ' ' = true) (given : ws ≠ []) :
    Text.splitWhere sep (sentence ws) = ws.flatMap (Text.splitWhere sep) := by
  rw [Text.splitWhere, sentence, String.toList_ofList,
    Text.pieces_unwords space (by simpa using given), List.flatMap_map, List.map_flatMap]
  rfl

theorem tokensWhere_sentence (space : sep ' ' = true) (ws : List String) :
    Text.tokensWhere sep (sentence ws) = ws.flatMap (Text.tokensWhere sep) := by
  rw [Text.tokensWhere, sentence, String.toList_ofList, Text.tokens_unwords space, List.flatMap_map,
    List.map_flatMap]
  rfl

theorem eq_space_eq_false {c : Char} (plain : ' ' ∉ w.toList) (hc : c ∈ w.toList) :
    (c == ' ') = false := by
  rw [beq_eq_false_iff_ne]
  rintro rfl
  exact plain hc

/-- A row of words is cut into its words at spaces. -/
theorem splitWhere_space (given : ws ≠ []) (plain : ∀ w ∈ ws, ' ' ∉ w.toList) :
    Text.splitWhere (· == ' ') (sentence ws) = ws := by
  rw [splitWhere_sentence rfl given]
  apply flatMap_of_whole
  exact fun w hw => splitWhere_of_plain fun c => eq_space_eq_false (plain w hw)

theorem tokensWhere_space (words : ∀ w ∈ ws, Word w) :
    Text.tokensWhere (· == ' ') (sentence ws) = ws := by
  rw [tokensWhere_sentence rfl]
  apply flatMap_of_whole
  intro w hw
  exact tokensWhere_of_plain (words w hw).ne_empty fun c => eq_space_eq_false (words w hw).no_space

theorem mem_sentence {c : Char} (h : c ∈ (sentence ws).toList) :
    c = ' ' ∨ ∃ w ∈ ws, c ∈ w.toList := by
  rw [sentence, String.toList_ofList] at h
  rcases Text.mem_unwords h with space | ⟨cs, hcs, hc⟩
  · exact .inl space
  · obtain ⟨w, hw, rfl⟩ := List.mem_map.mp hcs
    exact .inr ⟨w, hw, hc⟩

theorem mem_sentence_of_mem {c : Char} (hw : w ∈ ws) (hc : c ∈ w.toList) :
    c ∈ (sentence ws).toList := by
  rw [sentence, String.toList_ofList]
  exact Text.mem_unwords_of_mem (List.mem_map_of_mem hw) hc

end Rows

/-- The words of the key of a name. -/
def keyWords (name : String) : List String :=
  (Text.tokens Text.blank <|
    (Text.lowerChars (Text.trimChars name.toList)).map fun c => if separator c then ' ' else c).map
    .ofList

theorem normalizeKey_eq (name : String) : normalizeKey name = sentence (keyWords name) := by
  simp [normalizeKey, normalizeChars, sentence, keyWords, Function.comp_def]

theorem word_of_mem_keyWords {name w : String} (h : w ∈ keyWords name) : Word w := by
  obtain ⟨cs, hcs, rfl⟩ := List.mem_map.mp h
  constructor
  · simpa using Text.ne_nil_of_mem_tokens hcs
  · rw [String.toList_ofList]
    exact Text.plain_of_mem_tokens hcs

theorem tokensWhere_normalizeKey (name : String) :
    Text.tokensWhere (· == ' ') (normalizeKey name) = keyWords name := by
  rw [normalizeKey_eq, tokensWhere_space fun w => word_of_mem_keyWords]

/-- A row of several words that is its own key has these words. -/
theorem keyWords_of_normal {ws : List String} (several : 2 ≤ ws.length)
    (plain : ∀ w ∈ ws, ' ' ∉ w.toList) (normal : normalizeKey (sentence ws) = sentence ws) :
    keyWords (sentence ws) = ws := by
  have given : ws ≠ [] := by
    rintro rfl
    cases several
  have cut := splitWhere_space given plain
  rw [← normal, normalizeKey_eq] at cut
  by_cases few : keyWords (sentence ws) = []
  · -- The empty key is cut into one piece.
    rw [few] at cut
    rw [← cut] at several
    exact absurd several (by decide)
  · rwa [splitWhere_space few fun w hw => (word_of_mem_keyWords hw).no_space] at cut

section Labels
variable {t : Labeller} {name first a r : String} {rest ws : List String}

theorem label_of_several (special : t.lookup? .special (normalizeKey name) = none)
    (dictionary : t.lookup? .dictionary (normalizeKey name) = none)
    (words : keyWords name = first :: rest) (more : rest ≠ []) :
    t.label name = (t.compound? first rest).getD name := by
  have cut : Text.splitWhere (· == ' ') (normalizeKey name) = first :: rest := by
    rw [normalizeKey_eq, words]
    apply splitWhere_space (List.cons_ne_nil _ _)
    exact fun w hw => (word_of_mem_keyWords (words ▸ hw)).no_space
  obtain ⟨second, rest, rfl⟩ := List.exists_cons_of_ne_nil more
  simp only [label, special, dictionary, cut, Option.or_none]

/-- A key of one word is looked up as an action, then as a resource. -/
theorem label_of_few (special : t.lookup? .special (normalizeKey name) = none)
    (dictionary : t.lookup? .dictionary (normalizeKey name) = none)
    (few : (keyWords name).length < 2) :
    t.label name = ((t.lookup? .actions (normalizeKey name)).or
      (t.lookup? .resources (normalizeKey name))).getD name := by
  have cut : ∃ w, Text.splitWhere (· == ' ') (normalizeKey name) = [w] := by
    rw [normalizeKey_eq]
    rcases words : keyWords name with - | ⟨w, - | ⟨v, rest⟩⟩
    · exact ⟨"", rfl⟩
    · refine ⟨w, splitWhere_space (List.cons_ne_nil _ _) (List.forall_mem_singleton.mpr ?_)⟩
      exact (word_of_mem_keyWords (words ▸ List.mem_singleton_self w)).no_space
    · rw [words] at few
      exact absurd few (by simp)
  obtain ⟨w, cut⟩ := cut
  simp only [label, special, dictionary, cut, Option.or_none]

theorem phrase?_of_same (action : t.action a = a) (resource : t.resource r = r) :
    t.phrase? a r = none := if_pos ⟨action, resource⟩

theorem phrase?_of_changed (changed : t.action a ≠ a ∨ t.resource r ≠ r) :
    t.phrase? a r = some (Text.trim (t.action a ++ " " ++ t.resource r)) :=
  if_neg fun same => changed.elim (· same.1) (· same.2)

theorem compound?_concat (t : Labeller) (first : String) (middle : List String) (last : String) :
    t.compound? first (middle ++ [last]) = (t.phrase? first (sentence (middle ++ [last]))).or
      (t.phrase? last (sentence (first :: middle))) := by
  rw [compound?, ← List.cons_append, List.dropLast_concat, List.getLastD_concat]

/-- What a resource, or a word of one, is called. -/
def resourceLine? (t : Labeller) (r : String) : Option String :=
  (t.lookup? .resources r).or (t.lookup? .dictionary r)

/-- The words with those that have underscores cut at these. -/
def respelt (ws : List String) : List String := ws.flatMap (Text.tokensWhere (· == '_'))

theorem respelt_of_plain (words : ∀ w ∈ ws, Word w) (plain : ∀ w ∈ ws, '_' ∉ w.toList) :
    respelt ws = ws := by
  apply flatMap_of_whole
  intro w hw
  apply tokensWhere_of_plain (words w hw).ne_empty
  intro c hc
  rw [beq_eq_false_iff_ne]
  rintro rfl
  exact plain w hw hc

theorem resource_sentence (words : ∀ w ∈ ws, Word w)
    (missing : t.resourceLine? (sentence ws) = none) :
    t.resource (sentence ws) =
      sentence ((respelt ws).map fun w => (t.resourceLine? w).getD w) := by
  have each : ∀ w ∈ ws, Text.tokensWhere (fun c => c == ' ' || c == '_') w =
      Text.tokensWhere (· == '_') w := by
    intro w hw
    apply congrArg (List.map String.ofList)
    apply Text.tokens_congr
    intro c hc
    rw [eq_space_eq_false (words w hw).no_space hc, Bool.false_or]
  have cut : Text.tokensWhere (fun c => c == ' ' || c == '_') (sentence ws) = respelt ws := by
    rw [tokensWhere_sentence rfl, List.flatMap_congr each, respelt]
  change (t.resourceLine? (sentence ws)).getD (sentence ((Text.tokensWhere
    (fun c => c == ' ' || c == '_') (sentence ws)).map fun w => (t.resourceLine? w).getD w)) = _
  rw [missing, cut, Option.getD_none]

end Labels

end Labeller

end Entitlements
