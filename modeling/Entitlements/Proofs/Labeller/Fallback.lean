import Entitlements.Labeller

set_option autoImplicit false

/-!
A fallback locale. Every part of a label is looked up in the locale first and then in its fallback,
before the next section is tried. So the two tables act as one, in which the fallback fills the gaps
of the locale, and no third locale matters.
-/

namespace Entitlements

namespace Dictionary
variable (d : Dictionary) (locale : String) (fallback : Option String)

/-- The lines of a locale, none when it is absent. -/
def table (l : String) : OrderedMap String := (d.tables.get? l).getD ∅

/-- A dictionary of one locale, with the lines of another where it has none of its own. -/
def filled : Dictionary :=
  (∅ : Dictionary).addLines locale
    ((fallback.elim [] fun f => (d.table f).toList) ++ (d.table locale).toList)

theorem get?_table (l key : String) : (d.table l).get? key = d.get? l key := by
  unfold table get?
  cases d.tables.get? l <;> rfl

theorem lookup_table (l key : String) :
    (d.table l).toList.reverse.lookup key = d.get? l key := by
  rw [Pairs.lookup_reverse (d.table l).nodup]
  exact d.get?_table l key

theorem get?_filled (key : String) : (d.filled locale fallback).get? locale key =
    (d.get? locale key).or (fallback.bind (d.get? · key)) := by
  rw [filled, get?_addLines, if_pos rfl, List.reverse_append, List.lookup_append, lookup_table]
  cases fallback with
  | none => simp
  | some f => simp [lookup_table]

theorem locales_filled : (d.filled locale fallback).locales = [locale] :=
  List.mergeSort_singleton locale

end Dictionary

namespace Labeller

section Lookups
variable {t u : Labeller} (same : ∀ s key, t.lookup? s key = u.lookup? s key)
include same

theorem action_congr (a : String) : t.action a = u.action a := by
  simp only [action, same]

/-- The whole phrase and each of its words are looked up alike. -/
theorem resource_congr (r : String) : t.resource r = u.resource r := by
  simp only [resource, same]

theorem phrase?_congr (a r : String) : t.phrase? a r = u.phrase? a r := by
  simp only [phrase?, action_congr same, resource_congr same]

/-- Both orders of action and resource are tried alike. -/
theorem compound?_congr (first : String) (rest : List String) :
    t.compound? first rest = u.compound? first rest := by
  simp only [compound?, phrase?_congr same]

/-- A label depends on nothing but the answers of lookups. -/
theorem label_congr (name : String) : t.label name = u.label name := by
  simp only [label, same]
  split
  · rfl
  · split
    · rw [compound?_congr same]
    · rfl

end Lookups

/-- The last fallback that is not the locale itself is the one that counts. -/
def lastOther (locale : String) (fallbacks : List String) : Option String :=
  (fallbacks.filter (· ≠ locale)).getLast?

theorem foldl_withFallback (t : Labeller) (fallbacks : List String) :
    fallbacks.foldl withFallback t =
      { t with fallback := (lastOther t.locale fallbacks).or t.fallback } := by
  induction fallbacks generalizing t with
  | nil => rfl
  | cons f fs ih =>
    rw [List.foldl_cons, ih, withFallback, lastOther, lastOther]
    by_cases own : f = t.locale
    · simp [own]
    · rw [if_neg own, List.filter_cons_of_pos (by simpa using own), List.getLast?_cons]
      cases (fs.filter (· ≠ t.locale)).getLast? <;> rfl

theorem foldl_withFallback_new (d : Dictionary) (locale : String) (fallbacks : List String) :
    fallbacks.foldl withFallback (new d locale) = ⟨d, locale, lastOther locale fallbacks⟩ := by
  rw [foldl_withFallback]
  simp [new]

theorem lookup?_filled (d : Dictionary) (locale : String) (fallback : Option String) (s : Section)
    (key : String) :
    (new (d.filled locale fallback) locale).lookup? s key =
      (⟨d, locale, fallback⟩ : Labeller).lookup? s key := by
  simp [lookup?, new, d.get?_filled]

/-- Labels depend on two tables only. -/
theorem label_eq_of_agree {d d' : Dictionary} {locale : String} {fallback : Option String}
    (own : ∀ key, d'.get? locale key = d.get? locale key)
    (other : ∀ l ∈ fallback, ∀ key, d'.get? l key = d.get? l key) (name : String) :
    (⟨d', locale, fallback⟩ : Labeller).label name =
      (⟨d, locale, fallback⟩ : Labeller).label name := by
  apply label_congr
  intro s key
  cases fallback with
  | none => simp only [lookup?, own, Option.bind_none]
  | some l => simp only [lookup?, own, other l rfl, Option.bind_some]

/-- A fallback is a merge key by key: the labels are those of a dictionary with one locale, whose
value for a key is that of the locale or else that of its last fallback. Dictionaries that agree on
these two locales give the same labels, whatever other locales they have. -/
theorem fallback_fills_locale (d : Dictionary) (locale : String) (fallbacks : List String) :
    let labeller := fun d : Dictionary => fallbacks.foldl withFallback (new d locale)
    let fallback := (fallbacks.filter (· ≠ locale)).getLast?
    let one := d.filled locale fallback
    (one.locales = [locale] ∧
      ∀ key, one.get? locale key = (d.get? locale key).or (fallback.bind (d.get? · key))) ∧
    (∀ name, (labeller d).label name = (new one locale).label name) ∧
    ∀ d' : Dictionary, (∀ key, d'.get? locale key = d.get? locale key) →
      (∀ l ∈ fallback, ∀ key, d'.get? l key = d.get? l key) →
      ∀ name, (labeller d').label name = (labeller d).label name := by
  intro labeller fallback one
  have made (d : Dictionary) : labeller d = ⟨d, locale, fallback⟩ :=
    foldl_withFallback_new d locale fallbacks
  refine ⟨⟨d.locales_filled locale fallback, d.get?_filled locale fallback⟩, ?_, ?_⟩
  · intro name
    apply label_congr
    intro s key
    rw [made]
    exact (lookup?_filled d locale fallback s key).symm
  · intro d' own other name
    rw [made, made]
    exact label_eq_of_agree own other name

/-- The resource has a label of its own locale and the action one of the last fallback only; a third
locale, which was a fallback before, changes nothing. -/
theorem fallback_fills_locale_third :
    let d := ((∅ : Dictionary).addLines "de" [("resources.posts", "Artikel")]).addLines "en"
      [("actions.read", "Read"), ("resources.posts", "Posts")]
    let d' := d.addLines "fr" [("actions.read", "Lire"), ("resources.posts", "Billets")]
    let labeller := fun d : Dictionary => ["fr", "en", "de"].foldl withFallback (new d "de")
    ((∀ key, d'.get? "de" key = d.get? "de" key) ∧ ∀ key, d'.get? "en" key = d.get? "en" key) ∧
      (labeller d).label "read posts" = "Read Artikel" ∧
      (new (d.filled "de" (some "en")) "de").label "read posts" = "Read Artikel" ∧
      (labeller d').label "read posts" = "Read Artikel" := by
  intro d d' labeller
  have others (l : String) (other : l ≠ "fr") (key : String) : d'.get? l key = d.get? l key := by
    rw [Dictionary.get?_addLines, if_neg other]
  have own := others "de" (by decide)
  have fallback := others "en" (by decide)
  have shown : (labeller d).label "read posts" = "Read Artikel" := by decide +kernel
  obtain ⟨-, merged, kept⟩ := fallback_fills_locale d "de" ["fr", "en", "de"]
  refine ⟨⟨own, fallback⟩, shown, (merged "read posts").symm.trans shown, ?_⟩
  refine (kept d' own ?_ "read posts").trans shown
  intro l hl
  cases hl
  exact fallback

end Labeller

end Entitlements
