import Entitlements.Proofs.Grant.WrittenBack

set_option autoImplicit false

/-!
A delimited string against the list of its pieces. Both stand for the same tokens when the pieces are
trimmed. Delimiters are ASCII, but the items of a list lose any blanks around them; so a piece with
another blank at its end is one token in the string and another one in the list.
-/

namespace Entitlements

theorem ne_empty_of_mem_tokensWhere {sep : Char → Bool} {s t : String}
    (h : t ∈ Text.tokensWhere sep s) : t ≠ "" := by
  obtain ⟨cs, hcs, rfl⟩ := List.mem_map.mp h
  have nonempty := (List.mem_filter.mp hcs).2
  rw [Ne, String.ofList_eq_empty_iff]
  rintro rfl
  cases nonempty

namespace Definition

/-- The members of an object, one of them a resource whose value is left open. -/
structure Gap where
  before : List (Key × Definition)
  resource : String
  after : List (Key × Definition)

def Gap.fill (g : Gap) (v : Definition) : Definition :=
  .mapping (g.before ++ (.name g.resource, v) :: g.after)

/-- A definition with the value of a resource left open: an object, or a list with one in it. -/
inductive Place where
  | object (gap : Gap)
  | element (front : List Definition) (gap : Gap) (back : List Definition)

namespace Place

def resource : Place → String
  | .object g => g.resource
  | .element _ g _ => g.resource

def fill : Place → Definition → Definition
  | .object g, v => g.fill v
  | .element front g back, v => .list (front ++ g.fill v :: back)

end Place

/-- The value is one entry of the whole; the others do not depend on it. -/
theorem entries_fill (place : Place) : ∃ before after, ∀ v,
    (place.fill v).entries = before ++ (.name place.resource, v) :: after := by
  cases place with
  | object g => exact ⟨g.before, g.after, fun v => rfl⟩
  | element front g back =>
    obtain ⟨j, split⟩ := itemEntries_append 0 front
    refine ⟨itemEntries 0 front ++ g.before, g.after ++ itemEntries j back, fun v => ?_⟩
    rw [Place.fill, entries, split, Gap.fill, itemEntries]
    simp [Place.resource]

theorem exists_gap {es : List (Key × Definition)} {resource : String} {v : Definition}
    (h : (.name resource, v) ∈ es) : ∃ g : Gap, g.resource = resource ∧ g.fill v = .mapping es := by
  obtain ⟨before, after, rfl⟩ := List.append_of_mem h
  exact ⟨⟨before, resource, after⟩, rfl, rfl⟩

theorem exists_element {i : Nat} {ds : List Definition} {resource : String} {v : Definition}
    (h : (.name resource, v) ∈ itemEntries i ds) :
    ∃ front back, ∃ g : Gap, g.resource = resource ∧ front ++ g.fill v :: back = ds := by
  fun_induction itemEntries i ds with
  | case1 i => cases h
  | case2 i es ds ih =>
    rcases List.mem_append.mp h with own | later
    · obtain ⟨g, same, filled⟩ := exists_gap own
      exact ⟨[], ds, g, same, by rw [filled, List.nil_append]⟩
    · obtain ⟨front, back, g, same, rfl⟩ := ih later
      exact ⟨.mapping es :: front, back, g, same, rfl⟩
  | case3 i d ds _ ih =>
    rcases List.mem_cons.mp h with own | later
    · cases own
    · obtain ⟨front, back, g, same, rfl⟩ := ih later
      exact ⟨d :: front, back, g, same, rfl⟩

/-- Every entry under a resource stands in a place, and every place is that of such an entry. -/
theorem mem_entries_iff {d v : Definition} {resource : String} :
    (.name resource, v) ∈ d.entries ↔
      ∃ place : Place, place.resource = resource ∧ place.fill v = d := by
  constructor
  · intro h
    cases d with
    | scalar s => cases List.mem_singleton.mp h
    | list ds =>
      obtain ⟨front, back, g, same, rfl⟩ := exists_element h
      exact ⟨.element front g back, same, rfl⟩
    | mapping es =>
      obtain ⟨g, same, filled⟩ := exists_gap h
      exact ⟨.object g, same, filled⟩
  · rintro ⟨place, rfl, rfl⟩
    obtain ⟨before, after, split⟩ := entries_fill place
    rw [split]
    exact List.mem_append_right before List.mem_cons_self

/-- A list makes no wildcard of the definition that it is put into. -/
theorem isWildcard_fill_list {place : Place} {v : Definition}
    (plain : (place.fill v).isWildcard = false) (ds : List Definition) :
    (place.fill (.list ds)).isWildcard = false := by
  cases place with
  | object g =>
    obtain ⟨before, resource, after⟩ := g
    cases before with
    | nil => rfl
    | cons e before => exact plain
  | element front g back =>
    cases front with
    | nil => rfl
    | cons d front => exact plain

theorem resourceTokens_ofNames (names : List String) :
    (ofNames names).resourceTokens = Text.trimNames names := by
  have leaves : (ofNames names).resourceTokens = (ofNames names).trimmedTokens := rfl
  rw [leaves, trimmedTokens_eq, tokens_ofNames]

/-- The value gives its own tokens, whatever stands around it. -/
theorem references_fill (place : Place) : ∃ before after, ∀ v, (place.fill v).references =
    before ++ v.resourceTokens.map (⟨·, some place.resource⟩) ++ after := by
  obtain ⟨before, after, split⟩ := entries_fill place
  refine ⟨before.flatMap entryReferences, after.flatMap entryReferences, fun v => ?_⟩
  rw [references, split, List.flatMap_append, List.flatMap_cons, entryReferences,
    List.append_assoc]

end Definition

namespace Catalog
open Definition (Place)

theorem grant_congr {c : Catalog} {role : String} {d d' : Definition}
    (plain : d.isWildcard = false) (plain' : d'.isWildcard = false)
    (same : d'.references = d.references) : c.grant role d' = c.grant role d := by
  simp [grant, plain, plain', same]

/-- Every string under a resource stands in a place, and there it may be replaced by the list of its
pieces when these are trimmed. In any case the list is looked up piece by piece without outer blanks,
blank pieces left out, and the string with its pieces as they are. -/
theorem string_means_its_pieces (c : Catalog) (role : String) {d : Definition}
    (plain : d.isWildcard = false) :
    (∀ resource s, (.name resource, .scalar s) ∈ d.entries →
      ∃ place : Place, place.resource = resource ∧ place.fill (.scalar s) = d) ∧
    ∀ (place : Place) (s : String), place.fill (.scalar s) = d →
      let pieces := Text.tokensWhere delimiter s
      let cut := place.fill (.ofNames pieces)
      ((∀ p ∈ pieces, Text.trim p = p) → c.grant role cut = c.grant role d) ∧
      cut.isWildcard = false ∧
      ∃ before after,
        d.references = before ++ pieces.map (⟨·, some place.resource⟩) ++ after ∧
        cut.references =
          before ++ (Text.trimNames pieces).map (⟨·, some place.resource⟩) ++ after := by
  refine ⟨fun resource s h => Definition.mem_entries_iff.mp h, ?_⟩
  rintro place s rfl pieces cut
  obtain ⟨before, after, split⟩ := Definition.references_fill place
  have plain' : cut.isWildcard = false := Definition.isWildcard_fill_list plain _
  have listed : cut.references =
      before ++ (Text.trimNames pieces).map (⟨·, some place.resource⟩) ++ after := by
    rw [split, Definition.resourceTokens_ofNames]
  refine ⟨fun trimmed => ?_, plain', before, after, split _, listed⟩
  apply grant_congr plain plain'
  have names : Text.trimNames pieces = pieces := Text.trimNames_of_trimmed fun p hp =>
    ⟨trimmed p hp, ne_empty_of_mem_tokensWhere hp⟩
  rw [listed, names]
  exact (split (.scalar s)).symm

/-- A string in an object inside a list, with delimiters of several kinds. -/
theorem string_means_its_pieces_editor :
    let c := compile (.addAll ∅ [("posts", ["publish", "view"])]) ∅
    let place : Place := .element [.scalar "users"] ⟨[], "posts", []⟩ []
    (place.fill (.scalar " publish,\x0bview|ghost ")).isWildcard = false ∧
      Text.tokensWhere delimiter " publish,\x0bview|ghost " = ["publish", "view", "ghost"] ∧
      c.grant "editor" (place.fill (.ofNames ["publish", "view", "ghost"])) =
        c.grant "editor" (place.fill (.scalar " publish,\x0bview|ghost ")) := by
  intro c place
  have plain : (place.fill (.scalar " publish,\x0bview|ghost ")).isWildcard = false := rfl
  have pieces : Text.tokensWhere delimiter " publish,\x0bview|ghost " =
      ["publish", "view", "ghost"] := by decide
  obtain ⟨-, places⟩ := string_means_its_pieces c "editor" plain
  obtain ⟨same, -⟩ := places place _ rfl
  rw [pieces] at same
  exact ⟨plain, pieces, same (by decide)⟩

/-- A piece with a no-break space at its end is dropped from the string; in the list it loses the
space and is granted. -/
theorem padded_piece_is_trimmed :
    ¬ ∀ (rs ss : List (String × List String)) (role s : String) (place : Place),
      (place.fill (.scalar s)).isWildcard = false →
        (compile (.addAll ∅ rs) (.addAll ∅ ss)).grant role
            (place.fill (.ofNames (Text.tokensWhere delimiter s))) =
          (compile (.addAll ∅ rs) (.addAll ∅ ss)).grant role (place.fill (.scalar s)) := by
  intro always
  have same := always [("posts", ["publish"])] [] "editor" "publish\u00a0"
    (.object ⟨[], "posts", []⟩) rfl
  exact absurd same (by decide +kernel)

end Catalog

end Entitlements
