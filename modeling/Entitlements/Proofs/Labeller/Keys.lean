import Entitlements.Proofs.Labeller
import Entitlements.Proofs.Text.Case
import Mathlib.Data.List.Forall2
import Mathlib.Data.List.Induction

set_option autoImplicit false

/-!
Keys of names. A key is the row of its words, in small letters and without separators. It is its own
key, so a name and its key are looked up alike.
-/

namespace Entitlements

/-- A separator reads as a space. -/
def spaced (c : Char) : Char := if separator c then ' ' else c

/-- The words of a text in small letters, parted at separators too. -/
def lowered (cs : List Char) : List (List Char) :=
  Text.tokens Text.blank ((Text.lowerChars cs).map spaced)

section Words
variable {cs ds w : List Char} {c x : Char}

theorem spaced_of_blank (h : Text.blank x = true) : spaced x = x := by
  have plain : separator x ≠ true := by
    intro sep
    simp only [separator, Bool.or_eq_true, beq_iff_eq] at sep
    rcases sep with ((rfl | rfl) | rfl) | rfl <;> exact absurd h (by decide)
  rw [spaced, if_neg plain]

/-- What stands on either side of a blank is read by itself. -/
theorem lowered_append (h : Text.blank x = true) (cs ds : List Char) :
    lowered (cs ++ x :: ds) = lowered cs ++ lowered ds := by
  have text : (Text.lowerChars (cs ++ x :: ds)).map spaced =
      (Text.lowerChars cs).map spaced ++ x :: (Text.lowerChars ds).map spaced := by
    rw [Text.lowerChars, Text.lowerFrom_append (Text.parts_of_blank h),
      (Text.small_of_blank h).lowerChar, List.map_append, List.map_append, List.map_singleton,
      spaced_of_blank h, List.append_assoc]
    rfl
  rw [lowered, text, Text.tokens_append h]
  rfl

theorem lowered_trimLeft (cs : List Char) : lowered (Text.trimLeft cs) = lowered cs := by
  induction cs with
  | nil => rfl
  | cons c cs ih =>
    rw [Text.trimLeft]
    by_cases blank : Text.blank c = true
    · rw [List.dropWhile_cons_of_pos blank]
      exact ih.trans (lowered_append blank [] cs).symm
    · rw [List.dropWhile_cons_of_neg blank]

theorem lowered_trimRight (cs : List Char) : lowered (Text.trimRight cs) = lowered cs := by
  induction cs using List.reverseRec with
  | nil => rfl
  | append_singleton cs c ih =>
    rw [Text.trimRight, List.reverse_concat]
    by_cases blank : Text.blank c = true
    · rw [List.dropWhile_cons_of_pos blank]
      exact ih.trans ((lowered_append blank cs []).trans (List.append_nil _)).symm
    · rw [List.dropWhile_cons_of_neg blank, List.reverse_cons, List.reverse_reverse]

/-- Blanks at the ends make no difference, so a key may be read off the whole text. -/
theorem normalizeChars_eq (cs : List Char) : normalizeChars cs = Text.unwords (lowered cs) := by
  rw [← lowered_trimLeft cs, ← lowered_trimRight (Text.trimLeft cs)]
  rfl

/-- In a key there are spaces and characters that no step changes. -/
theorem settled_of_mem_lowered (hw : w ∈ lowered cs) (hc : c ∈ w) :
    Text.Small c ∧ separator c = false ∧ Text.blank c = false := by
  have visible := Text.plain_of_mem_tokens hw c hc
  obtain ⟨d, hd, rfl⟩ := List.mem_map.mp (Text.mem_of_mem_tokens hw hc)
  by_cases sep : separator d = true
  · rw [spaced, if_pos sep] at visible
    exact absurd visible (by decide)
  · rw [spaced, if_neg sep] at visible ⊢
    exact ⟨Text.small_of_mem_lowerFrom hd, by simpa using sep, visible⟩

theorem settled_of_mem_normalizeChars (h : c ∈ normalizeChars cs) :
    Text.Small c ∧ separator c = false ∧ (Text.blank c = true → c = ' ') := by
  rw [normalizeChars_eq] at h
  rcases Text.mem_unwords h with rfl | ⟨w, hw, hc⟩
  · exact ⟨Text.small_of_blank (by decide), by decide, fun _ => rfl⟩
  · obtain ⟨small, plain, visible⟩ := settled_of_mem_lowered hw hc
    exact ⟨small, plain, fun blank => absurd (visible.symm.trans blank) (by decide)⟩

/-- The words of a key are its pieces between spaces. -/
theorem tokens_normalizeChars (cs : List Char) :
    Text.tokens Text.blank (normalizeChars cs) = lowered cs := by
  have whole : ∀ w ∈ lowered cs, Text.tokens Text.blank w = [w] := fun w hw =>
    Text.tokens_of_plain (Text.ne_nil_of_mem_tokens hw) (Text.plain_of_mem_tokens hw)
  rw [normalizeChars_eq, Text.tokens_unwords (by decide), List.flatMap_congr whole,
    List.flatMap_singleton']

theorem lowered_normalizeChars (cs : List Char) : lowered (normalizeChars cs) = lowered cs := by
  have small : Text.lowerChars (normalizeChars cs) = normalizeChars cs :=
    Text.lowerFrom_of_small fun c hc => (settled_of_mem_normalizeChars hc).1
  have plain : (normalizeChars cs).map spaced = normalizeChars cs := by
    have same : ∀ c ∈ normalizeChars cs, spaced c = id c := fun c hc =>
      if_neg (by simp [(settled_of_mem_normalizeChars hc).2.1])
    rw [List.map_congr_left same, List.map_id]
  rw [lowered, small, plain, tokens_normalizeChars]

end Words

theorem settled_of_mem_normalizeKey {name : String} {c : Char}
    (h : c ∈ (normalizeKey name).toList) :
    Text.Small c ∧ separator c = false ∧ (Text.blank c = true → c = ' ') := by
  rw [normalizeKey, String.toList_ofList] at h
  exact settled_of_mem_normalizeChars h

theorem normalizeKey_normalizeKey (name : String) :
    normalizeKey (normalizeKey name) = normalizeKey name := by
  rw [normalizeKey, normalizeKey, String.toList_ofList, normalizeChars_eq, lowered_normalizeChars,
    ← normalizeChars_eq]

namespace Labeller

/-- A key is the row of its words. -/
theorem sentence_tokensWhere_normalizeKey (name : String) :
    sentence (Text.tokensWhere Text.blank (normalizeKey name)) = normalizeKey name := by
  rw [normalizeKey, Text.tokensWhere, String.toList_ofList, tokens_normalizeChars,
    normalizeChars_eq]
  simp [sentence, Function.comp_def]

/-- What is found under a key, as a whole or as action and resource. -/
def entry? (t : Labeller) (key : String) : Option String :=
  ((t.lookup? .special key).or (t.lookup? .dictionary key)).or <|
    match Text.splitWhere (· == ' ') key with
    | first :: second :: rest => t.compound? first (second :: rest)
    | _ => (t.lookup? .actions key).or (t.lookup? .resources key)

theorem label_eq_getD (t : Labeller) (name : String) :
    t.label name = (t.entry? (normalizeKey name)).getD name := by
  simp only [label, entry?]
  generalize normalizeKey name = key
  split
  · rename_i found
    rw [found]
    rfl
  · rename_i missing
    rw [missing, Option.none_or]
    rcases Text.splitWhere (· == ' ') key with - | ⟨first, - | ⟨second, rest⟩⟩ <;> rfl

/-- Names of one key have one label, or no label at all. -/
theorem label_of_same_key {m n : String} (same : normalizeKey m = normalizeKey n)
    (t : Labeller) : t.label m = t.label n ∨ t.label m = m ∧ t.label n = n := by
  rw [label_eq_getD, label_eq_getD, same]
  cases t.entry? (normalizeKey n) with
  | some found => exact .inl rfl
  | none => exact .inr ⟨rfl, rfl⟩

/-- A key has no separators, and no blanks but single spaces between its words. It is its own key, so
labels are found by it as by the name, unless the name has none and both stay as they are. -/
theorem key_is_canonical (name : String) :
    let key := normalizeKey name
    (∀ c ∈ key.toList, c ∉ ['.', '-', ':', '/'] ∧ (Text.blank c = true → c = ' ')) ∧
    key = sentence (Text.tokensWhere Text.blank key) ∧
    normalizeKey key = key ∧
    ∀ t : Labeller, t.label key = t.label name ∨ t.label key = key ∧ t.label name = name := by
  intro key
  have canonical : normalizeKey key = normalizeKey name := normalizeKey_normalizeKey name
  refine ⟨?_, ?_, canonical, label_of_same_key canonical⟩
  · intro c hc
    obtain ⟨-, plain, blank⟩ := settled_of_mem_normalizeKey hc
    exact ⟨by simpa [separator, and_assoc] using plain, blank⟩
  · exact (sentence_tokensWhere_normalizeKey name).symm

end Labeller

end Entitlements
