import Entitlements.Dictionary.Directory
import Entitlements.Proofs.Dictionary
import Entitlements.Proofs.Sorting
import Entitlements.Proofs.Text.Utf8

set_option autoImplicit false

/-!
Dictionaries after any row of loads. A load adds all of its lines to one locale or, when it is
refused, none; so a key has the label that came last for it, and loads of different locales may
change places. A directory is such a row in any order.
-/

namespace Entitlements.Dictionary

/-- A call that may add lines to a locale. -/
inductive Load where
  | lines (locale : String) (lines : List (String × String))
  | document (locale : String) (document : Json)

namespace Load

def locale : Load → String
  | lines locale _ => locale
  | document locale _ => locale

/-- The lines that are added, none when a document is refused. -/
def lines? : Load → Option (List (String × String))
  | lines _ ls => some ls
  | document _ doc =>
    if (doc.values.find? (·.2.string?.isNone)).isSome then none else some (labels doc)

/-- The lines that are added to one locale. -/
def linesFor (l : String) (c : Load) : List (String × String) :=
  if c.locale = l then c.lines?.getD [] else []

end Load

/-- What a call leaves, whether it succeeds or fails. -/
def load (d : Dictionary) : Load → Dictionary
  | .lines locale ls => d.addLines locale ls
  | .document locale doc =>
    match addJson locale doc d with
    | .ok _ d' => d'
    | .error _ d' => d'

variable {d d' d'' : Dictionary} {locale l k : String} {ls : List (String × String)} {doc : Json}
  {c c' : Load}

theorem load_eq (d : Dictionary) (c : Load) : d.load c = c.lines?.elim d (d.addLines c.locale) := by
  cases c with
  | lines locale ls => rfl
  | document locale doc =>
    rw [load, addJson_eq, Load.lines?]
    cases doc.values.find? (·.2.string?.isNone) <;> rfl

theorem get?_load (d : Dictionary) (c : Load) (l k : String) :
    (d.load c).get? l k = ((c.linesFor l).reverse.lookup k).or (d.get? l k) := by
  rw [load_eq, Load.linesFor]
  cases c.lines? with
  | none => by_cases own : c.locale = l <;> simp [own]
  | some ls =>
    rw [Option.elim_some, get?_addLines]
    by_cases own : c.locale = l
    · simp [own]
    · simp [own, Ne.symm own]

theorem mem_locales : l ∈ d.locales ↔ l ∈ d.tables.keys := List.mem_mergeSort

theorem mem_locales_addLines :
    l ∈ (d.addLines locale ls).locales ↔ l = locale ∨ l ∈ d.locales := by
  rw [mem_locales, mem_locales, addLines, OrderedMap.keys_alter]
  split <;> grind

theorem mem_locales_load :
    l ∈ (d.load c).locales ↔ (l = c.locale ∧ c.lines?.isSome = true) ∨ l ∈ d.locales := by
  rw [load_eq]
  cases c.lines? with
  | none => simp
  | some ls => simp [mem_locales_addLines]

/-- The same answers to all lookups, and the same locales. -/
structure Agrees (d d' : Dictionary) : Prop where
  lookups : ∀ l k, d.get? l k = d'.get? l k
  locales : d.locales = d'.locales

theorem Agrees.refl (d : Dictionary) : d.Agrees d := ⟨fun _ _ => rfl, rfl⟩

theorem Agrees.trans (h : d.Agrees d') (h' : d'.Agrees d'') : d.Agrees d'' :=
  ⟨fun l k => (h.lookups l k).trans (h'.lookups l k), h.locales.trans h'.locales⟩

theorem agrees_of_mem (lookups : ∀ l k, d.get? l k = d'.get? l k)
    (locales : ∀ l, l ∈ d.locales ↔ l ∈ d'.locales) : d.Agrees d' := by
  refine ⟨lookups, ?_⟩
  have perm : d.tables.keys.Perm d'.tables.keys := by
    rw [List.perm_ext_iff_of_nodup d.tables.nodup_keys d'.tables.nodup_keys]
    intro l
    rw [← mem_locales, locales, mem_locales]
  apply mergeSort_eq_of_perm _ _ _ perm
  · intro a b c hab hbc
    simp only [decide_eq_true_eq] at *
    exact Std.le_trans hab hbc
  · intro a b
    simpa using Std.le_total
  · intro a b hab hba
    simp only [decide_eq_true_eq] at *
    exact Std.le_antisymm hab hba

theorem Agrees.load (h : d.Agrees d') (c : Load) : (d.load c).Agrees (d'.load c) := by
  apply agrees_of_mem
  · intro l k
    rw [get?_load, get?_load, h.lookups]
  · intro l
    rw [mem_locales_load, mem_locales_load, h.locales]

section Directories
variable (t : FileTree) (dir : List UInt8)

def pathOf (name : List UInt8) : List UInt8 := FileTree.join (FileTree.join dir name) fileName

end Directories

end Entitlements.Dictionary
