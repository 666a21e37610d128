import Entitlements.Proofs.Labeller

set_option autoImplicit false

/-!
Names with the action behind the resource. The order with the action in front is tried first; where
it finds nothing at all, the other order is read as if the action stood in front.
-/

namespace Entitlements.Labeller
variable {t : Labeller} {a r word : String} {ws : List String}

theorem action_of_entry (entry : t.lookup? .actions a = some word) : t.action a = word := by
  rw [action, entry]
  rfl

theorem action_of_missing (actions : t.lookup? .actions a = none)
    (dictionary : t.lookup? .dictionary a = none) : t.action a = a := by
  rw [action, actions, dictionary]
  rfl

/-- A resource stays as it is when neither the whole nor any of its words has an entry, and no word
is cut. -/
theorem resource_of_missing (words : ∀ w ∈ ws, Word w) (plain : ∀ w ∈ ws, '_' ∉ w.toList)
    (missing : ∀ p ∈ sentence ws :: ws, t.resourceLine? p = none) :
    t.resource (sentence ws) = sentence ws := by
  obtain ⟨whole, each⟩ := List.forall_mem_cons.mp missing
  rw [resource_sentence words whole, respelt_of_plain words plain]
  have same : ∀ w ∈ ws, (t.resourceLine? w).getD w = id w := by
    intro w hw
    rw [each w hw]
    rfl
  rw [List.map_congr_left same, List.map_id]

/-- An action in front is read as such whatever follows. -/
theorem label_of_action_first (words : keyWords (sentence (a :: ws)) = a :: ws) (more : ws ≠ [])
    (normal : normalizeKey (sentence (a :: ws)) = sentence (a :: ws))
    (special : t.lookup? .special (sentence (a :: ws)) = none)
    (dictionary : t.lookup? .dictionary (sentence (a :: ws)) = none) (changed : t.action a ≠ a) :
    t.label (sentence (a :: ws)) = Text.trim (t.action a ++ " " ++ t.resource (sentence ws)) := by
  rw [← normal] at special dictionary
  rw [label_of_several special dictionary words more, compound?, phrase?_of_changed (.inl changed)]
  rfl

/-- An action at the end is read as such when nothing is found in the other order. -/
theorem label_of_action_last (words : keyWords (sentence (r :: (ws ++ [a]))) = r :: (ws ++ [a]))
    (normal : normalizeKey (sentence (r :: (ws ++ [a]))) = sentence (r :: (ws ++ [a])))
    (special : t.lookup? .special (sentence (r :: (ws ++ [a]))) = none)
    (dictionary : t.lookup? .dictionary (sentence (r :: (ws ++ [a]))) = none)
    (first : t.action r = r) (rest : t.resource (sentence (ws ++ [a])) = sentence (ws ++ [a]))
    (changed : t.action a ≠ a) :
    t.label (sentence (r :: (ws ++ [a]))) =
      Text.trim (t.action a ++ " " ++ t.resource (sentence (r :: ws))) := by
  rw [← normal] at special dictionary
  rw [label_of_several special dictionary words (by simp), compound?_concat,
    phrase?_of_same first rest, Option.none_or, phrase?_of_changed (.inl changed)]
  rfl

/-- A name with its action at the end has the label of the name with its action in front, when the
action has an entry that changes it, neither order has an entry as a whole, and the order with the
first word of the resource as action finds nothing, neither for the phrase nor for a word. The first
word and the whole of the resource may have entries. -/
theorem action_last_labelled_alike (t : Labeller) {a r word : String} {rs : List String}
    (words : ∀ w ∈ a :: r :: rs, ' ' ∉ w.toList)
    (modern : normalizeKey (sentence (a :: r :: rs)) = sentence (a :: r :: rs))
    (legacy : normalizeKey (sentence (r :: (rs ++ [a]))) = sentence (r :: (rs ++ [a])))
    (action : t.lookup? .actions a = some word) (changed : word ≠ a)
    (whole : ∀ p ∈ [sentence (a :: r :: rs), sentence (r :: (rs ++ [a]))],
      t.lookup? .special p = none ∧ t.lookup? .dictionary p = none)
    (first : t.lookup? .actions r = none ∧ t.lookup? .dictionary r = none)
    (rest : ∀ p ∈ sentence (rs ++ [a]) :: (rs ++ [a]),
      t.lookup? .resources p = none ∧ t.lookup? .dictionary p = none)
    (plain : ∀ w ∈ rs ++ [a], '_' ∉ w.toList) :
    t.label (sentence (r :: (rs ++ [a]))) = t.label (sentence (a :: r :: rs)) := by
  obtain ⟨⟨special, dictionary⟩, special', dictionary'⟩ : _ ∧ _ := by simpa using whole
  have moved : ∀ w ∈ r :: (rs ++ [a]), ' ' ∉ w.toList := fun w hw =>
    words w ((List.perm_append_singleton a (r :: rs)).subset hw)
  have modernWords : keyWords (sentence (a :: r :: rs)) = a :: r :: rs :=
    keyWords_of_normal (by simp) words modern
  have legacyWords : keyWords (sentence (r :: (rs ++ [a]))) = r :: (rs ++ [a]) :=
    keyWords_of_normal (by simp) moved legacy
  have acts : t.action a ≠ a := by rwa [action_of_entry action]
  have stays : t.resource (sentence (rs ++ [a])) = sentence (rs ++ [a]) := by
    apply resource_of_missing _ plain
    · intro p hp
      rw [resourceLine?, (rest p hp).1, (rest p hp).2]
      rfl
    · exact fun w hw => word_of_mem_keyWords (legacyWords ▸ List.mem_cons_of_mem r hw)
  rw [label_of_action_last legacyWords legacy special' dictionary'
      (action_of_missing first.1 first.2) stays acts,
    label_of_action_first modernWords (by simp) modern special dictionary acts]

/-- The action is known to the fallback only; the whole resource and its first word have entries. -/
theorem action_last_labelled_alike_stock :
    let d := ((∅ : Dictionary).addLines "es" [("resources.stock", "Existencias"),
      ("resources.stock levels", "Niveles")]).addLines "en" [("actions.create", "Create")]
    let t : Labeller := ⟨d, "es", some "en"⟩
    (t.lookup? .actions "create" = some "Create" ∧
      t.lookup? .resources "stock" = some "Existencias" ∧
      t.lookup? .resources "stock levels" = some "Niveles") ∧
    t.label "stock levels create" = t.label "create stock levels" ∧
    t.label "create stock levels" = "Create Niveles" := by
  intro d t
  have entries : t.lookup? .actions "create" = some "Create" ∧
      t.lookup? .resources "stock" = some "Existencias" ∧
      t.lookup? .resources "stock levels" = some "Niveles" := by decide +kernel
  refine ⟨entries, ?_, by decide +kernel⟩
  exact @action_last_labelled_alike t "create" "stock" "Create" ["levels"] (by decide +kernel)
    (by decide +kernel) (by decide +kernel) entries.1 (by decide +kernel) (by decide +kernel)
    (by decide +kernel) (by decide +kernel) (by decide +kernel)

end Entitlements.Labeller
