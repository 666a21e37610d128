import Entitlements.Dictionary
import Entitlements.Proofs.Definition.Leaves

set_option autoImplicit false

/-!
Documents of labels line by line. The values below the sections of a document stand in one row; the
first of them that is no string is what a refusal tells, and else each is a line under the keys on
the way to it.
-/

namespace Entitlements

namespace Json

/-- A value is reached from a document through objects only, by the keys on the way. -/
inductive Reaches : Json → List String → Json → Prop
  | here (v : Json) : v.Reaches [] v
  | member {k : String} {w v : Json} {ms : List (String × Json)} {keys : List String}
    (h : (k, w) ∈ ms) (inner : w.Reaches keys v) : Reaches (.object ms) (k :: keys) v

mutual

/-- The values below the sections, in document order, each with the keys on the way to it. -/
def valuesFrom (path : List String) : Json → List (List String × Json)
  | .object ms => memberValues path ms
  | v => [(path, v)]

def memberValues (path : List String) : List (String × Json) → List (List String × Json)
  | [] => []
  | (k, v) :: ms => valuesFrom (path ++ [k]) v ++ memberValues path ms

end

def values (v : Json) : List (List String × Json) := v.valuesFrom []

section Values
variable {keys path : List String} {v : Json}

theorem eq_of_reaches {doc : Json} (plain : doc.kind ≠ .object) (h : doc.Reaches keys v) :
    keys = [] ∧ v = doc := by
  cases h with
  | here => exact ⟨rfl, rfl⟩
  | member h inner => exact absurd rfl plain

theorem valuesFrom_of_plain {doc : Json} (plain : doc.kind ≠ .object) :
    doc.valuesFrom path = [(path, doc)] := by
  cases doc with
  | object ms => exact absurd rfl plain
  | _ => simp [valuesFrom]

mutual

theorem mem_valuesFrom (keys : List String) (v : Json) (path : List String) : (doc : Json) →
    ((keys, v) ∈ doc.valuesFrom path ↔
      ∃ rest, keys = path ++ rest ∧ doc.Reaches rest v ∧ v.kind ≠ .object)
  | .object ms => by
    rw [valuesFrom, mem_memberValues keys v path ms]
    constructor
    · rintro ⟨k, w, rest, member, same, inner, plain⟩
      exact ⟨k :: rest, same, .member member inner, plain⟩
    · rintro ⟨rest, same, reached, plain⟩
      cases reached with
      | here => exact absurd rfl plain
      | member h inner => exact ⟨_, _, _, h, same, inner, plain⟩
  | .null | .bool _ | .number _ | .string _ | .array _ => by
    rw [valuesFrom_of_plain (by simp [kind]), List.mem_singleton, Prod.mk.injEq]
    constructor
    · rintro ⟨rfl, rfl⟩
      exact ⟨[], by simp, .here _, by simp [kind]⟩
    · rintro ⟨rest, rfl, reached, -⟩
      obtain ⟨rfl, rfl⟩ := eq_of_reaches (by simp [kind]) reached
      exact ⟨List.append_nil path, rfl⟩

theorem mem_memberValues (keys : List String) (v : Json) (path : List String) :
    (ms : List (String × Json)) → ((keys, v) ∈ memberValues path ms ↔
      ∃ k w rest, (k, w) ∈ ms ∧ keys = path ++ k :: rest ∧ w.Reaches rest v ∧ v.kind ≠ .object)
  | [] => by simp [memberValues]
  | (k, w) :: ms => by
    rw [memberValues, List.mem_append, mem_valuesFrom keys v (path ++ [k]) w,
      mem_memberValues keys v path ms]
    constructor
    · rintro (⟨rest, same, inner⟩ | ⟨l, u, rest, member, inner⟩)
      · exact ⟨k, w, rest, List.mem_cons_self, by simpa using same, inner⟩
      · exact ⟨l, u, rest, List.mem_cons_of_mem _ member, inner⟩
    · rintro ⟨l, u, rest, member, same, inner⟩
      rcases List.mem_cons.mp member with own | later
      · obtain ⟨rfl, rfl⟩ := Prod.mk.inj own
        exact .inl ⟨rest, by simpa using same, inner⟩
      · exact .inr ⟨l, u, rest, later, same, inner⟩

end

end Values

end Json

namespace Dictionary

/-- The key of a line: the keys on the way to it with dots between, empty ones in front left out. -/
def lineKey (keys : List String) : String :=
  ".".intercalate (keys.dropWhile (· = ""))

theorem intercalate_ne_empty {k : String} {ks : List String} (given : k ≠ "") :
    ".".intercalate (k :: ks) ≠ "" := by
  cases ks with
  | nil => simpa using given
  | cons l ks => simp [given]

theorem lineKey_concat (keys : List String) (k : String) :
    lineKey (keys ++ [k]) = child (lineKey keys) k := by
  rw [lineKey, lineKey, List.dropWhile_append]
  cases front : keys.dropWhile (· = "") with
  | nil => by_cases empty : k = "" <;> simp [child, empty]
  | cons l ls =>
    have given : l ≠ "" := by
      have first := List.head?_dropWhile_not (· = "") keys
      simpa [front] using first
    rw [List.isEmpty_cons, if_neg Bool.false_ne_true, child, if_neg (intercalate_ne_empty given),
      String.intercalate_append_of_ne_nil (List.cons_ne_nil _ _) (List.cons_ne_nil _ _),
      String.intercalate_singleton]

/-- The line of a value, or its key when it is no string. -/
def line (e : List String × Json) : Except String (String × String) :=
  match e.2.string? with
  | some label => .ok (lineKey e.1, label)
  | none => .error (lineKey e.1)

mutual

theorem lines_eq (path : List String) : (doc : Json) →
    lines (lineKey path) doc = (doc.valuesFrom path).mapM line
  | .string _ => rfl
  | .object ms => linesOfMembers_eq path ms
  | .null | .bool _ | .number _ | .array _ => rfl

theorem linesOfMembers_eq (path : List String) : (ms : List (String × Json)) →
    linesOfMembers (lineKey path) ms = (Json.memberValues path ms).mapM line
  | [] => rfl
  | (k, v) :: ms => by
    rw [linesOfMembers, ← lineKey_concat, lines_eq (path ++ [k]) v, linesOfMembers_eq path ms,
      Json.memberValues, List.mapM_append]

end

/-- The labels of a document, in document order, each under the key of its line. -/
def labels (doc : Json) : List (String × String) :=
  doc.values.filterMap fun e => e.2.string?.map (lineKey e.1, ·)

theorem mapM_line (es : List (List String × Json)) :
    es.mapM line = match es.find? (·.2.string?.isNone) with
      | some e => .error (lineKey e.1)
      | none => .ok (es.filterMap fun e => e.2.string?.map (lineKey e.1, ·)) := by
  induction es with
  | nil => rfl
  | cons e es ih =>
    rw [List.mapM_cons, ih]
    cases text : e.2.string? with
    | none =>
      rw [List.find?_cons_of_pos (by simp [text]), line, text]
      rfl
    | some label =>
      rw [List.find?_cons_of_neg (by simp [text]), line, text,
        List.filterMap_cons_some (by rw [text]; rfl)]
      cases es.find? (·.2.string?.isNone) <;> rfl

variable {d d' : Dictionary} {locale key : String} {doc : Json}

theorem addJson_eq (d : Dictionary) (locale : String) (doc : Json) :
    addJson locale doc d = match doc.values.find? (·.2.string?.isNone) with
      | some e => .error (lineKey e.1) d
      | none => .ok () (d.addLines locale (labels doc)) := by
  have row : lines "" doc = doc.values.mapM line := lines_eq [] doc
  rw [addJson, row, mapM_line]
  cases doc.values.find? (·.2.string?.isNone) <;> rfl

end Dictionary

end Entitlements
