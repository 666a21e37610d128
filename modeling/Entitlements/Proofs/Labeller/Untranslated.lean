import Entitlements.Proofs.Labeller

set_option autoImplicit false

/-!
Labels without translations. Nothing is found at any lookup, so an action comes back as it is and a
resource changes only by the cut at its underscores. The first order whose resource has one makes
the label; else the name stays as it was written.
-/

namespace Entitlements.Labeller

section Underscores
variable {ws : List String}

theorem underscore_notMem_respelt (ws : List String) : '_' ∉ (sentence (respelt ws)).toList := by
  intro h
  rcases mem_sentence h with space | ⟨w, hw, hc⟩
  · exact absurd space (by decide)
  · obtain ⟨v, -, cut⟩ := List.mem_flatMap.mp hw
    obtain ⟨cs, hcs, rfl⟩ := List.mem_map.mp cut
    rw [String.toList_ofList] at hc
    exact absurd (Text.plain_of_mem_tokens hcs '_' hc) (by decide)

/-- Respelling is seen just when there is an underscore. -/
theorem sentence_respelt_eq_iff (words : ∀ w ∈ ws, Word w) :
    sentence (respelt ws) = sentence ws ↔ ∀ w ∈ ws, '_' ∉ w.toList := by
  constructor
  · intro same w hw hc
    apply underscore_notMem_respelt ws
    rw [same]
    exact mem_sentence_of_mem hw hc
  · intro plain
    rw [respelt_of_plain words plain]

end Underscores

/-- Neither the locale nor its fallback has any lines. -/
structure Silent (t : Labeller) : Prop where
  own : ∀ key, t.dictionary.get? t.locale key = none
  other : ∀ l ∈ t.fallback, ∀ key, t.dictionary.get? l key = none

namespace Silent
variable {t : Labeller} {ws : List String} {name : String}

theorem lookup? (silent : t.Silent) (s : Section) (key : String) : t.lookup? s key = none := by
  rw [Labeller.lookup?, silent.own, Option.none_or, Option.bind_eq_none_iff]
  exact fun l hl => silent.other l hl _

theorem action (silent : t.Silent) (a : String) : t.action a = a := by
  rw [Labeller.action, silent.lookup?, silent.lookup?]
  rfl

theorem resource (silent : t.Silent) (words : ∀ w ∈ ws, Word w) :
    t.resource (sentence ws) = sentence (respelt ws) := by
  have missing (r : String) : t.resourceLine? r = none := by
    rw [resourceLine?, silent.lookup?, silent.lookup?, Option.or_none]
  rw [resource_sentence words (missing _)]
  simp only [missing, Option.getD_none, List.map_id']

theorem phrase?_of_plain (silent : t.Silent) (words : ∀ w ∈ ws, Word w)
    (plain : ∀ w ∈ ws, '_' ∉ w.toList) (a : String) : t.phrase? a (sentence ws) = none := by
  apply phrase?_of_same (silent.action a)
  rw [silent.resource words, respelt_of_plain words plain]

theorem phrase?_of_underscore (silent : t.Silent) (words : ∀ w ∈ ws, Word w)
    (compound : ∃ w ∈ ws, '_' ∈ w.toList) (a : String) :
    t.phrase? a (sentence ws) = some (Text.trim (a ++ " " ++ sentence (respelt ws))) := by
  have changed : t.resource (sentence ws) ≠ sentence ws := by
    obtain ⟨w, hw, hc⟩ := compound
    rw [silent.resource words, Ne, sentence_respelt_eq_iff words]
    exact fun plain => plain w hw hc
  rw [phrase?_of_changed (.inr changed), silent.action, silent.resource words]

theorem label_of_few (silent : t.Silent) (few : (keyWords name).length < 2) :
    t.label name = name := by
  rw [Labeller.label_of_few (silent.lookup? _ _) (silent.lookup? _ _) few, silent.lookup?,
    silent.lookup?]
  rfl

variable {first last : String} {middle : List String}

/-- Both orders are tried. -/
theorem label_of_ends (silent : t.Silent) (words : keyWords name = first :: (middle ++ [last])) :
    t.label name = ((t.phrase? first (sentence (middle ++ [last]))).or
      (t.phrase? last (sentence (first :: middle)))).getD name := by
  rw [label_of_several (silent.lookup? _ _) (silent.lookup? _ _) words (by simp), compound?_concat]

end Silent

/-- Without lines a name is its own label when its key has less than two words or no underscore.
Otherwise the words behind the first are its resource if one of them has an underscore, and else the
words before the last; the resource is shown with spaces for underscores, behind the word that is
left. -/
theorem untranslated_label (t : Labeller) (own : ∀ key, t.dictionary.get? t.locale key = none)
    (other : ∀ l ∈ t.fallback, ∀ key, t.dictionary.get? l key = none) (name : String) :
    let words := Text.tokensWhere (· == ' ') (normalizeKey name)
    let joined := fun ws : List String => sentence (ws.flatMap (Text.tokensWhere (· == '_')))
    ((words.length < 2 ∨ ∀ w ∈ words, '_' ∉ w.toList) → t.label name = name) ∧
    ∀ first middle last, words = first :: (middle ++ [last]) →
      ((∃ w ∈ middle ++ [last], '_' ∈ w.toList) →
        t.label name = Text.trim (first ++ " " ++ joined (middle ++ [last]))) ∧
      ('_' ∈ first.toList → (∀ w ∈ middle ++ [last], '_' ∉ w.toList) →
        t.label name = Text.trim (last ++ " " ++ joined (first :: middle))) := by
  intro words joined
  have silent : t.Silent := ⟨own, other⟩
  have key : words = keyWords name := tokensWhere_normalizeKey name
  have each : ∀ w ∈ words, Word w := fun w hw => word_of_mem_keyWords (key ▸ hw)
  clear_value words
  subst key
  constructor
  · intro plain
    by_cases few : (keyWords name).length < 2
    · exact silent.label_of_few few
    · replace plain := plain.resolve_left few
      -- Two words at least: a first one, a last one, and those between.
      rcases ends : keyWords name with - | ⟨first, rest⟩
      · simp [ends] at few
      rcases List.eq_nil_or_concat rest with rfl | ⟨middle, last, rfl⟩
      · simp [ends] at few
      rw [List.concat_eq_append] at ends
      rw [ends] at each plain
      have front : first :: middle ⊆ first :: (middle ++ [last]) :=
        List.cons_subset_cons first (List.subset_append_left middle [last])
      rw [silent.label_of_ends ends,
        silent.phrase?_of_plain (List.forall_mem_cons.mp each).2 (List.forall_mem_cons.mp plain).2,
        silent.phrase?_of_plain (fun w hw => each w (front hw)) fun w hw => plain w (front hw)]
      rfl
  · intro first middle last ends
    rw [ends] at each
    have rest := (List.forall_mem_cons.mp each).2
    constructor
    · intro compound
      rw [silent.label_of_ends ends, silent.phrase?_of_underscore rest compound]
      rfl
    · intro compound plain
      have front : ∀ w ∈ first :: middle, Word w := fun w hw => each w <|
        List.cons_subset_cons first (List.subset_append_left middle [last]) hw
      rw [silent.label_of_ends ends, silent.phrase?_of_plain rest plain,
        silent.phrase?_of_underscore front ⟨first, List.mem_cons_self, compound⟩]
      rfl

/-- Lines of a third locale are of no use: an underscore behind the first word, one in the first
word alone, and none. -/
theorem untranslated_label_underscores :
    let t : Labeller :=
      ⟨(∅ : Dictionary).addLines "es" [("actions.create", "Crear")], "fr", some "en"⟩
    ((∀ key, t.dictionary.get? t.locale key = none) ∧
      ∀ l ∈ t.fallback, ∀ key, t.dictionary.get? l key = none) ∧
    t.label "Create_all/stock__levels" = "create_all stock levels" ∧
    t.label "stock_levels.create" = "create stock levels" ∧
    t.label "  Create  Users " = "  Create  Users " := by
  intro t
  have silent (l : String) (other : l ≠ "es") (key : String) : t.dictionary.get? l key = none := by
    rw [Dictionary.get?_addLines, if_neg other]
    rfl
  have own : ∀ key, t.dictionary.get? t.locale key = none := silent "fr" (by decide)
  have other : ∀ l ∈ t.fallback, ∀ key, t.dictionary.get? l key = none := by
    rintro l ⟨⟩
    exact silent "en" (by decide)
  have label := untranslated_label t own other
  refine ⟨⟨own, other⟩, ?_, ?_, ?_⟩
  · have words : Text.tokensWhere (· == ' ') (normalizeKey "Create_all/stock__levels") =
        ["create_all", "stock__levels"] := by decide +kernel
    rw [((label _).2 "create_all" [] "stock__levels" words).1 (by decide +kernel)]
    decide +kernel
  · have words : Text.tokensWhere (· == ' ') (normalizeKey "stock_levels.create") =
        ["stock_levels", "create"] := by decide +kernel
    rw [((label _).2 "stock_levels" [] "create" words).2 (by decide +kernel) (by decide +kernel)]
    decide +kernel
  · apply (label _).1
    right
    decide +kernel

end Entitlements.Labeller
