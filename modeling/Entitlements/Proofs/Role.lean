import Entitlements.Proofs.Text.Trim
import Entitlements.Proofs.Text.Words
import Entitlements.Role
import Mathlib.Data.List.Forall2

set_option autoImplicit false

/-!
What a role definition says. It has parts, each under a resource or under none. A string under a
resource says what stands between its separators; any other part says its leaves. The references of
a definition are what its parts say, in their order.
-/

namespace Entitlements.Definition

/-- A star, or a list or an object with a star in front. -/
inductive Starred : Definition → Prop
  | alone : Starred (.scalar "*")
  | item (ds : List Definition) : Starred (.list (.scalar "*" :: ds))
  | entry (k : Key) (es : List (Key × Definition)) : Starred (.mapping ((k, .scalar "*") :: es))

theorem isStar_iff {d : Definition} : d.isStar = true ↔ d = .scalar "*" := by
  cases d <;> simp [isStar]

theorem isWildcard_iff {d : Definition} : d.isWildcard = true ↔ d.Starred := by
  constructor
  · intro star
    cases d with
    | scalar s =>
      obtain rfl := beq_iff_eq.mp star
      exact .alone
    | list ds =>
      cases ds with
      | nil => cases star
      | cons d ds =>
        obtain rfl := isStar_iff.mp star
        exact .item ds
    | mapping es =>
      cases es with
      | nil => cases star
      | cons e es =>
        obtain ⟨k, d⟩ := e
        obtain rfl := isStar_iff.mp star
        exact .entry k es
  · rintro (_ | ds | ⟨k, es⟩) <;> rfl

theorem isWildcard_eq_false_iff {d : Definition} : d.isWildcard = false ↔ ¬ d.Starred := by
  rw [← isWildcard_iff, Bool.not_eq_true]

/-- The strings at the leaves of a definition, from left to right. -/
inductive Leaves : Definition → List String → Prop
  | scalar (s : String) : Leaves (.scalar s) [s]
  | noItem : Leaves (.list []) []
  | item {d : Definition} {ds : List Definition} {ss ts : List String} (first : Leaves d ss)
      (rest : Leaves (.list ds) ts) : Leaves (.list (d :: ds)) (ss ++ ts)
  | noEntry : Leaves (.mapping []) []
  | entry {k : Key} {d : Definition} {es : List (Key × Definition)} {ss ts : List String}
      (first : Leaves d ss) (rest : Leaves (.mapping es) ts) :
      Leaves (.mapping ((k, d) :: es)) (ss ++ ts)

mutual

theorem leaves_tokens : (d : Definition) → d.Leaves d.tokens
  | .scalar s => .scalar s
  | .list ds => leaves_tokensOfItems ds
  | .mapping es => leaves_tokensOfEntries es

theorem leaves_tokensOfItems : (ds : List Definition) → (list ds).Leaves (tokensOfItems ds)
  | [] => .noItem
  | d :: ds => .item (leaves_tokens d) (leaves_tokensOfItems ds)

theorem leaves_tokensOfEntries : (es : List (Key × Definition)) →
    (mapping es).Leaves (tokensOfEntries es)
  | [] => .noEntry
  | (_, d) :: es => .entry (leaves_tokens d) (leaves_tokensOfEntries es)

end

theorem leaves_iff {d : Definition} {ss : List String} : d.Leaves ss ↔ ss = d.tokens := by
  constructor
  · intro h
    induction h with
    | scalar s => rfl
    | noItem => rfl
    | item _ _ first rest =>
      rw [first, rest]
      rfl
    | noEntry => rfl
    | entry _ _ first rest =>
      rw [first, rest]
      rfl
  · rintro rfl
    exact leaves_tokens d

/-- The resource that a key names. -/
def Key.resource? : Key → Option String
  | .position _ => none
  | .name r => some r

/-- A definition in parts, each with the resource that it stands under. An object in a list stands
for its entries. -/
def parts : Definition → List (Option String × Definition)
  | .scalar s => [(none, .scalar s)]
  | .list ds => ds.flatMap fun d =>
    match d with
    | .mapping es => es.map fun e => (e.1.resource?, e.2)
    | d => [(none, d)]
  | .mapping es => es.map fun e => (e.1.resource?, e.2)

theorem parts_eq (d : Definition) : d.parts = d.entries.map fun e => (e.1.resource?, e.2) := by
  cases d with
  | scalar s => rfl
  | list ds =>
    rw [parts, entries]
    generalize 0 = i
    fun_induction itemEntries i ds with
    | case1 i => rfl
    | case2 i es ds ih => rw [List.flatMap_cons, ih, List.map_append]
    | case3 i d ds plain ih =>
      rw [List.flatMap_cons, ih, List.map_cons]
      cases d with
      | mapping es => exact (plain es rfl).elim
      | scalar s => rfl
      | list ds => rfl
  | mapping es => rfl

/-- ASCII blanks, the vertical tab among them, the comma and the bar. -/
def separators : List Char := [' ', '\t', '\n', '\x0b', '\x0c', '\r', ',', '|']

/-- What stands between the separators of a text. Nothing is trimmed: a piece may be blank, but not
empty. -/
def pieces (s : String) : List String :=
  ((s.toList.splitOnP (· ∈ separators)).filter (· ≠ [])).map .ofList

theorem delimiter_eq (c : Char) : delimiter c = decide (c ∈ separators) := by
  simp [delimiter, separators, Bool.or_assoc, beq_eq_decide]

theorem pieces_eq (s : String) : pieces s = Text.tokensWhere delimiter s := by
  have same : (fun c => decide (c ∈ separators)) = delimiter := funext fun c => (delimiter_eq c).symm
  have given : (fun w : List Char => decide (w ≠ [])) = fun w => !w.isEmpty := by
    funext w
    cases w <;> rfl
  rw [pieces, same, given, ← Text.pieces_eq_splitOnP]
  rfl

/-- What a part tells. -/
inductive PartTells : Option String × Definition → List Reference → Prop
  | string (r s : String) : PartTells (some r, .scalar s) ((pieces s).map (⟨·, some r⟩))
  | other {resource : Option String} {d : Definition} {ss : List String}
      (uncut : resource = none ∨ ∀ s, d ≠ .scalar s) (leaves : d.Leaves ss) :
      PartTells (resource, d) ((Text.trimNames ss).map (⟨·, resource⟩))

theorem entryReferences_scalar (r s : String) :
    entryReferences (.name r, .scalar s) = (pieces s).map (⟨·, some r⟩) := by
  rw [entryReferences, resourceTokens, pieces_eq]

theorem entryReferences_of_uncut {k : Key} {d : Definition}
    (uncut : k.resource? = none ∨ ∀ s, d ≠ .scalar s) :
    entryReferences (k, d) = (Text.trimNames d.tokens).map (⟨·, k.resource?⟩) := by
  cases k with
  | position i => rfl
  | name r =>
    rcases uncut with none | other
    · cases none
    · cases d with
      | scalar s => exact (other s rfl).elim
      | list ds | mapping es => rfl

theorem partTells_iff {k : Key} {d : Definition} {rs : List Reference} :
    PartTells (k.resource?, d) rs ↔ entryReferences (k, d) = rs := by
  constructor
  · intro h
    cases k with
    | position i =>
      cases h with
      | other _ leaves =>
        rw [leaves_iff.mp leaves]
        rfl
    | name r =>
      cases h with
      | string r s => exact entryReferences_scalar r s
      | other uncut leaves =>
        rw [leaves_iff.mp leaves]
        exact entryReferences_of_uncut (k := .name r) uncut
  · rintro rfl
    cases k with
    | position i => exact .other (.inl rfl) (leaves_tokens d)
    | name r =>
      cases d with
      | scalar s =>
        rw [entryReferences_scalar]
        exact .string r s
      | list ds | mapping es => exact .other (.inr fun s => by rintro ⟨⟩) (leaves_tokens _)

/-- What a definition tells: what its parts tell, one after the other. -/
def Tells (d : Definition) (rs : List Reference) : Prop :=
  ∃ rows, List.Forall₂ PartTells d.parts rows ∧ rows.flatten = rs

theorem tells_iff {d : Definition} {rs : List Reference} : d.Tells rs ↔ rs = d.references := by
  have rows_iff (rows : List (List Reference)) :
      List.Forall₂ PartTells d.parts rows ↔ rows = d.entries.map entryReferences := by
    rw [parts_eq, List.forall₂_map_left_iff]
    simp only [partTells_iff]
    rw [← List.forall₂_map_left_iff, List.forall₂_eq_eq_eq, eq_comm]
  simp only [Tells, rows_iff, exists_eq_left, references, List.flatMap_def, eq_comm]

/-- A blank token is a piece of a string under a resource. A leaf is trimmed and does not count when
nothing is left of it. -/
theorem PartTells.piece_of_blank {part : Option String × Definition} {rs : List Reference}
    (told : PartTells part rs) {t : Reference} (ht : t ∈ rs)
    (blank : Text.isBlank t.token = true) :
    ∃ r s, t.resource = some r ∧ part = (some r, .scalar s) ∧ t.token ∈ pieces s := by
  cases told with
  | string r s =>
    obtain ⟨w, hw, rfl⟩ := List.mem_map.mp ht
    exact ⟨r, s, rfl, rfl, hw⟩
  | other =>
    obtain ⟨w, hw, rfl⟩ := List.mem_map.mp ht
    obtain ⟨given, y, -, rfl⟩ := Text.mem_trimNames.mp hw
    rw [← Text.trim_eq_empty_iff, Text.trim_trim] at blank
    exact absurd blank given

theorem piece_of_blank {d : Definition} {t : Reference} (ht : t ∈ d.references)
    (blank : Text.isBlank t.token = true) :
    ∃ r s, t.resource = some r ∧ (some r, .scalar s) ∈ d.parts ∧ t.token ∈ pieces s := by
  obtain ⟨e, he, ht⟩ := List.mem_flatMap.mp ht
  obtain ⟨r, s, under, part, piece⟩ := (partTells_iff.mpr rfl).piece_of_blank ht blank
  refine ⟨r, s, under, ?_, piece⟩
  rw [parts_eq, ← part]
  exact List.mem_map_of_mem he

end Entitlements.Definition
