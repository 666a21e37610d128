import Entitlements.Proofs.Catalog
import Entitlements.Proofs.Role

set_option autoImplicit false

/-!
What a role gets from a catalog. Every token of its definition stands for some permissions of the
catalog or is dropped; the role gets them in the order in which the tokens come.
-/

namespace Entitlements

/-- A token that stands for nothing, with the name that was looked up. -/
def Dropped.ofToken (role : String) : Reference → Dropped
  | ⟨t, none⟩ => ⟨role, t, none⟩
  | ⟨t, some r⟩ => ⟨role, compose t r, some r⟩

theorem Dropped.of_eq (role : String) (t : Reference) : Dropped.of role t = ofToken role t := by
  obtain ⟨t, - | r⟩ := t <;> rfl

namespace Catalog

/-- The permissions that a token stands for. Without a resource these are the group of that name, if
there is one; otherwise it is a name of the catalog or nothing. -/
def meaning (c : Catalog) : Reference → List String
  | ⟨t, none⟩ =>
    match c.groups.get? t with
    | some group => group
    | none => if c.contains t then [t] else []
  | ⟨t, some r⟩ => if c.contains (compose t r) then [compose t r] else []

theorem mem_meaning_some {c : Catalog} {t r p : String} :
    p ∈ c.meaning ⟨t, some r⟩ ↔ p = compose t r ∧ c.contains p = true := by
  rw [meaning]
  split <;> grind

theorem mem_meaning_none {c : Catalog} {t p : String} :
    p ∈ c.meaning ⟨t, none⟩ ↔ (∃ group, c.groups.get? t = some group ∧ p ∈ group) ∨
      (c.groups.get? t = none ∧ p = t ∧ c.contains p = true) := by
  rw [meaning]
  split
  · rename_i group found
    simp [found]
  · rename_i missing
    simp only [missing]
    split <;> grind

theorem group_ne_nil {resources specials : ItemTable} {r : String} {group : List String}
    (h : (compile resources specials).groups.get? r = some group) : group ≠ [] := by
  rw [get?_compile] at h
  split at h
  · cases h
  · cases h
    exact eraseDups_eq_nil.not.mpr (by assumption)

theorem meaning_subset {c : Catalog} (h : c.Consistent) (t : Reference) :
    c.meaning t ⊆ c.names := by
  intro p hp
  obtain ⟨t, - | r⟩ := t
  · rcases mem_meaning_none.mp hp with ⟨group, found, inside⟩ | ⟨-, -, known⟩
    · exact (h.mem_names_iff p).mpr ⟨_, group, found, inside⟩
    · exact (h.contains_iff p).mp known
  · exact (h.contains_iff p).mp (mem_meaning_some.mp hp).2

theorem resolve?_eq_meaning {resources specials : ItemTable} (t : Reference) :
    (compile resources specials).resolve? t =
      if (compile resources specials).meaning t = [] then none
      else some ((compile resources specials).meaning t) := by
  obtain ⟨t, - | r⟩ := t
  · cases found : (compile resources specials).groups.get? t with
    | some group => simp [resolve?, meaning, found, group_ne_nil found]
    | none =>
      by_cases known : (compile resources specials).contains t <;>
        simp [resolve?, meaning, Reference.target, found, known]
  · by_cases known : (compile resources specials).contains (compose t r) <;>
      simp [resolve?, meaning, Reference.target, known]

theorem follow_of_some {c : Catalog} {r : Reference} {names : List String}
    (h : c.resolve? r = some names) (role : String) (g : OpenGrant) :
    c.follow role g r = g.allow names := by
  rw [follow, h]

theorem follow_of_none {c : Catalog} {r : Reference} (h : c.resolve? r = none) (role : String)
    (g : OpenGrant) : c.follow role g r = g.drop (.of role r) := by
  rw [follow, h]

/-- Going through references grants all that they resolve to, in their order, and drops just those
that resolve to nothing. -/
theorem foldl_follow (c : Catalog) (role : String) (g : OpenGrant) (rs : List Reference) :
    rs.foldl (c.follow role) g =
      ⟨g.permissions.insertAll (rs.flatMap fun r => (c.resolve? r).getD []),
        g.dropped ++ (rs.filter fun r => (c.resolve? r).isNone).map (.of role)⟩ := by
  induction rs generalizing g with
  | nil => simp
  | cons r rs ih =>
    rw [List.foldl_cons, ih]
    cases h : c.resolve? r with
    | some names =>
      rw [follow_of_some h]
      simp [h, OpenGrant.allow, NameSet.insertAll_append]
    | none =>
      rw [follow_of_none h]
      simp [h, OpenGrant.drop]

theorem grant_of_wildcard {c : Catalog} {d : Definition} (role : String)
    (star : d.isWildcard = true) :
    c.grant role d = ⟨c.names, []⟩ := if_pos star

section Compiled
variable (resources specials : ItemTable)

theorem getD_resolve? (t : Reference) :
    ((compile resources specials).resolve? t).getD [] =
      (compile resources specials).meaning t := by
  rw [resolve?_eq_meaning]
  split <;> simp_all

theorem isNone_resolve? (t : Reference) :
    ((compile resources specials).resolve? t).isNone =
      decide ((compile resources specials).meaning t = []) := by
  rw [resolve?_eq_meaning]
  split <;> simp_all

theorem grant_of_not_wildcard (role : String) {d : Definition} (plain : d.isWildcard = false) :
    (compile resources specials).grant role d =
      ⟨(d.references.flatMap (compile resources specials).meaning).eraseDups,
        (d.references.filter ((compile resources specials).meaning · = [])).map
          (Dropped.ofToken role)⟩ := by
  rw [grant, if_neg (by simp [plain]), foldl_follow]
  simp only [getD_resolve?, isNone_resolve?, funext (Dropped.of_eq role)]
  exact congrArg (RoleGrant.mk · _) (NameSet.toList_ofList _)

end Compiled

theorem nodup_grant (resources specials : ItemTable) (role : String) (d : Definition) :
    ((compile resources specials).grant role d).permissions.Nodup := by
  cases star : d.isWildcard with
  | true =>
    rw [grant_of_wildcard role star]
    exact (consistent_compile resources specials).nodup_names
  | false =>
    rw [grant_of_not_wildcard resources specials role star]
    exact nodup_eraseDups _

theorem grant_subset (resources specials : ItemTable) (role : String) (d : Definition) :
    ((compile resources specials).grant role d).permissions ⊆
      (compile resources specials).names := by
  cases star : d.isWildcard with
  | true =>
    rw [grant_of_wildcard role star]
    exact List.Subset.refl _
  | false =>
    rw [grant_of_not_wildcard resources specials role star]
    intro p hp
    obtain ⟨t, -, hp⟩ := List.mem_flatMap.mp (List.mem_eraseDups.mp hp)
    exact meaning_subset (consistent_compile resources specials) t hp

/-- A role gets names of the catalog, each once. A wildcard gets all of them. Any other definition
tells one row of tokens: the role gets what they stand for, in the order of their first grant, and
the tokens that stand for nothing are dropped, every time they occur. A token is blank only as a
piece of a string under a resource. -/
theorem grant_sound_and_complete (resources specials : ItemTable) (role : String)
    (d : Definition) :
    let c := compile resources specials
    let g := c.grant role d
    (g.permissions.Nodup ∧ ∀ p ∈ g.permissions, c.contains p = true) ∧
    (d.Starred → g.permissions = c.names ∧ g.dropped = []) ∧
    (¬ d.Starred → ∃ ts, (∀ rs, d.Tells rs ↔ rs = ts) ∧
      (∀ p, p ∈ g.permissions ↔ ∃ t ∈ ts, p ∈ c.meaning t) ∧
      g.permissions = (ts.flatMap c.meaning).eraseDups ∧
      g.dropped = (ts.filter (c.meaning · = [])).map (Dropped.ofToken role) ∧
      ∀ t ∈ ts, Text.isBlank t.token = true → ∃ r s, t.resource = some r ∧
        (some r, .scalar s) ∈ d.parts ∧ t.token ∈ Definition.pieces s) := by
  intro c g
  have consistent : c.Consistent := consistent_compile resources specials
  refine ⟨⟨nodup_grant resources specials role d, fun p hp => ?_⟩, fun star => ?_, fun plain => ?_⟩
  · exact (consistent.contains_iff p).mpr (grant_subset resources specials role d hp)
  · have whole : g = ⟨c.names, []⟩ := grant_of_wildcard role (Definition.isWildcard_iff.mpr star)
    rw [whole]
    exact ⟨rfl, rfl⟩
  · have granted : g = _ := grant_of_not_wildcard resources specials role
      (Definition.isWildcard_eq_false_iff.mpr plain)
    rw [granted]
    refine ⟨d.references, fun rs => Definition.tells_iff, fun p => ?_, rfl, rfl,
      fun t ht => Definition.piece_of_blank ht⟩
    rw [List.mem_eraseDups, List.mem_flatMap]

/-- A no-break space under a resource is a token, though a blank one, and it is dropped. -/
theorem blank_piece_is_dropped :
    ¬ ∀ (resources specials : ItemTable) (role : String) (d : Definition) (ts : List Reference),
      ¬ d.Starred → d.Tells ts →
      let c := compile resources specials
      (c.grant role d).dropped = (ts.filter fun t => Text.isBlank t.token = false ∧
        c.meaning t = []).map (Dropped.ofToken role) := by
  intro always
  let d : Definition := .mapping [(.name "posts", .scalar "\u00a0")]
  have plain : d.isWildcard = false := rfl
  have left := always (.ofList [("posts", ["read"])]) ∅ "editor" d d.references
    (Definition.isWildcard_eq_false_iff.mp plain) (Definition.tells_iff.mpr rfl)
  exact absurd left (by decide +kernel)

end Catalog

end Entitlements
