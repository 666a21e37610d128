import Entitlements.Proofs.Configuration.Pass
import Entitlements.Proofs.Definition
import Entitlements.Proofs.SuperAdmins
import Mathlib.Data.List.Induction

set_option autoImplicit false

/-!
Which documents are read, and as what. Each field has values that it takes, and its part of the
configuration comes from its own value alone. So only the known fields of a document count, neither
their order nor the form that they come in. Among the members of an object the first one at fault is
reported, be it for its key.
-/

namespace Entitlements.Configuration
open Definition (authored ofJson_of_textual)
open Json (Piece Written)

/-- The values that a field takes. -/
def Field.Takes : Field → Json → Prop
  | .permissions, v | .specialPermissions, v => v.Textual
  | .roles, v => v.Textual ∧ (v = .array [] ∨ ∃ ms, v = .object ms)
  | .superAdminRole, v => (∃ name, v = .string name) ∨ ∃ names, v = .ofStrings names
  | .defaultGuard, v => ∃ name, v = .string name

def rolesOf (v : Json) : RoleTable := (RoleTable.ofDefinition? (authored v)).getD ∅

def superAdminsOf (v : Json) : SuperAdmins := (SuperAdmins.ofJson? v).getD .standard

def guardOf : Json → String
  | .string name => name
  | _ => ""

/-- Each part comes from the value of its own field, or stays as it is without one. -/
def update (c : Configuration) (fields : List (Field × Json)) : Configuration where
  policy := {
    resources := (fields.lookup .permissions).elim c.policy.resources (.ofResources <| authored ·)
    specials := (fields.lookup .specialPermissions).elim c.policy.specials (.ofSpecials <| authored ·)
    roles := (fields.lookup .roles).elim c.policy.roles rolesOf }
  superAdmins := (fields.lookup .superAdminRole).elim c.superAdmins superAdminsOf
  defaultGuard := (fields.lookup .defaultGuard).elim c.defaultGuard guardOf

variable {c c' : Configuration} {f : Field} {v : Json} {reason : Reason}

theorem update_congr {fields fields' : List (Field × Json)}
    (same : ∀ f, fields'.lookup f = fields.lookup f) : c.update fields' = c.update fields := by
  simp only [update, same]

theorem lookup_cons_of_new {fields : List (Field × Json)} (new : f ∉ fields.map Prod.fst)
    (g : Field) : ((f, v) :: fields).lookup g = (fields.lookup g).or ([(f, v)].lookup g) := by
  by_cases same : g = f
  · subst same
    have none : fields.lookup g = none := by
      rw [List.lookup_eq_none_iff]
      intro m hm
      exact bne_iff_ne.mpr fun named => new (named ▸ List.mem_map_of_mem hm)
    simp [none]
  · simp [List.lookup_cons, beq_eq_false_iff_ne.mpr same]

theorem update_cons {fields : List (Field × Json)} (new : f ∉ fields.map Prod.fst) :
    c.update ((f, v) :: fields) = (c.update [(f, v)]).update fields := by
  have elim {α : Type} (g : Field) (a : α) (h : Json → α) :
      (((f, v) :: fields).lookup g).elim a h =
        (fields.lookup g).elim (([(f, v)].lookup g).elim a h) h := by
    rw [lookup_cons_of_new new]
    cases fields.lookup g <;> rfl
  simp only [update, elim]

theorem superAdmins_of_takes (h : Field.superAdminRole.Takes v) :
    SuperAdmins.ofJson? v = some (superAdminsOf v) := by
  rcases h with ⟨name, rfl⟩ | ⟨names, rfl⟩
  · rfl
  · rw [superAdminsOf, SuperAdmins.ofJson?_ofStrings]
    rfl

theorem takes_of_superAdmins {s : SuperAdmins} (h : SuperAdmins.ofJson? v = some s) :
    Field.superAdminRole.Takes v := by
  cases v with
  | string name => exact .inl ⟨name, rfl⟩
  | array vs =>
    obtain ⟨names, parts, -⟩ := Option.map_eq_some_iff.mp h
    exact .inr ⟨names, congrArg Json.array (SuperAdmins.eq_map_of_strings? parts)⟩
  | _ => cases h

theorem readRoles_of_table {d : Definition} {t : RoleTable} (read : Definition.ofJson v = .ok d)
    (table : RoleTable.ofDefinition? d = some t) : readRoles v = .ok t := by
  rw [readRoles, definition, read]
  cases d with
  | mapping es =>
    cases table
    rfl
  | scalar s => cases table
  | list items => cases table

theorem readRoles_of_takes (h : Field.roles.Takes v) : readRoles v = .ok (rolesOf v) := by
  obtain ⟨textual, rfl | ⟨ms, rfl⟩⟩ := h
  · rfl
  · cases textual with
    | object members =>
      have read := Definition.ofJson_object fun m hm => ofJson_of_textual (members m hm)
      rw [rolesOf, Definition.authored_of_ok read]
      exact readRoles_of_table read rfl

theorem takes_of_readRoles {t : RoleTable} (h : readRoles v = .ok t) : Field.roles.Takes v := by
  obtain ⟨d, read, h⟩ := exists_of_bind_eq_ok h
  have read := eq_ok_of_mapError read
  have textual := Definition.textual_of_ofJson read
  refine ⟨textual, ?_⟩
  cases textual with
  | string s =>
    cases read
    cases h
  | @array vs items =>
    cases vs with
    | nil => exact .inl rfl
    | cons v vs =>
      rw [Definition.ofJson_array fun v hv => ofJson_of_textual (items v hv)] at read
      cases read
      cases h
  | @object ms members => exact .inr ⟨ms, rfl⟩

/-- A field is set from a value that it takes, and no other part changes. -/
theorem set_of_takes (h : f.Takes v) : c.set f v = .ok (c.update [(f, v)]) := by
  cases f with
  | permissions | specialPermissions =>
    rw [set, definition, ofJson_of_textual h]
    rfl
  | roles =>
    rw [set, readRoles_of_takes h]
    rfl
  | superAdminRole =>
    simp only [set, superAdmins_of_takes h]
    rfl
  | defaultGuard =>
    obtain ⟨name, rfl⟩ := h
    rfl

/-- A value that a field does not take is refused for a reason that does not depend on what was read
before. -/
theorem set_of_not_takes (h : ¬ f.Takes v) : ∃ reason, ∀ c, set c f v = .error reason := by
  cases f with
  | permissions | specialPermissions =>
    cases read : Definition.ofJson v with
    | ok d => exact absurd (Definition.textual_of_ofJson read) h
    | error r => exact ⟨.definition r, fun c => by rw [set, definition, read]; rfl⟩
  | roles =>
    cases read : readRoles v with
    | ok t => exact absurd (takes_of_readRoles read) h
    | error reason => exact ⟨reason, fun c => by rw [set, read]; rfl⟩
  | superAdminRole =>
    cases read : SuperAdmins.ofJson? v with
    | some s => exact absurd (takes_of_superAdmins read) h
    | none => exact ⟨.superAdmins, fun c => by simp only [set, read]; rfl⟩
  | defaultGuard =>
    refine ⟨.guardName v, fun c => ?_⟩
    cases v with
    | string name => exact absurd ⟨name, rfl⟩ h
    | _ => rfl

/-- What is written for a field stands for a value that it takes. -/
def Field.Accepts (f : Field) (w : Written) : Prop :=
  ∃ v, w.decode? (Json.maxLevels - 1) = some v ∧ f.Takes v

/-- The place and the reason for which a field refuses what is written for it: the first part that
does not decode, or else the whole. The name of the guard is refused without a look inside. -/
inductive Field.Refuses (f : Field) (w : Written) : Json.Path → Reason → Prop
  | nested {found : Json} (start : nested? f w = some found) : f.Refuses w [] (.guardName found)
  | undecodable {path : Json.Path} (start : nested? f w = none)
      (flaw : w.flaw? (Json.maxLevels - 1) = some path) : f.Refuses w path .notJson
  | untaken {v : Json} {reason : Reason} (start : nested? f w = none)
      (value : w.decode? (Json.maxLevels - 1) = some v)
      (refusal : ∀ c, set c f v = .error reason) : f.Refuses w [] reason

section Written
variable {w : Written} {path : Json.Path}

theorem nested?_of_takes (value : w.decode? (Json.maxLevels - 1) = some v) (h : f.Takes v) :
    nested? f w = none := by
  cases f with
  | defaultGuard =>
    obtain ⟨name, rfl⟩ := h
    cases w with
    | array ws =>
      obtain ⟨vs, -, made⟩ := Option.map_eq_some_iff.mp value
      cases made
    | object ms =>
      obtain ⟨members, -, made⟩ := Option.map_eq_some_iff.mp value
      cases made
    | _ => rfl
  | _ => rfl

theorem take_of_takes (value : w.decode? (Json.maxLevels - 1) = some v) (h : f.Takes v) :
    c.take f w = .ok (c.update [(f, v)]) := by
  rw [take, nested?_of_takes value h]
  dsimp only
  rw [value]
  dsimp only
  rw [set_of_takes h]
  rfl

theorem take_of_refuses (h : f.Refuses w path reason) (c : Configuration) :
    c.take f w = .error ⟨path, reason⟩ := by
  cases h with
  | nested start =>
    rw [take, start]
  | undecodable start flaw =>
    have none : w.decode? (Json.maxLevels - 1) = none := by
      rw [← Option.not_isSome_iff_eq_none, ← Json.Written.flaw?_eq_none_iff, flaw]
      rintro ⟨⟩
    rw [take, start]
    dsimp only
    rw [none, flaw]
    rfl
  | untaken start value refusal =>
    rw [take, start]
    dsimp only
    rw [value]
    dsimp only
    rw [refusal]
    rfl

theorem accepts_or_refuses (f : Field) (w : Written) :
    f.Accepts w ∨ ∃ path reason, f.Refuses w path reason := by
  cases start : nested? f w with
  | some found => exact .inr ⟨_, _, .nested start⟩
  | none =>
    cases flaw : w.flaw? (Json.maxLevels - 1) with
    | some path => exact .inr ⟨_, _, .undecodable start flaw⟩
    | none =>
      obtain ⟨v, value⟩ := Option.isSome_iff_exists.mp ((w.flaw?_eq_none_iff _).mp flaw)
      by_cases taken : f.Takes v
      · exact .inl ⟨v, value, taken⟩
      · obtain ⟨reason, refusal⟩ := set_of_not_takes taken
        exact .inr ⟨_, _, .untaken start value refusal⟩

end Written

/-- A member with the name of a field. -/
def known? (m : List Piece × Written) : Option (Field × Written) :=
  ((Json.decodeString? m.1).bind Field.ofName?).map (·, m.2)

def value? (m : Field × Written) : Option (Field × Json) :=
  (m.2.decode? (Json.maxLevels - 1)).map (m.1, ·)

theorem sublist_values (fields : List (Field × Written)) :
    ((fields.filterMap value?).map Prod.fst).Sublist (fields.map Prod.fst) := by
  induction fields with
  | nil => exact .slnil
  | cons m fields ih =>
    cases value : m.2.decode? (Json.maxLevels - 1) with
    | none =>
      rw [List.filterMap_cons_none (by rw [value?, value, Option.map_none])]
      exact ih.cons _
    | some v =>
      rw [List.filterMap_cons_some (by rw [value?, value, Option.map_some])]
      exact ih.cons_cons _

/-- A configuration document is an object or an array, as it is written. -/
abbrev Document := Written

namespace Document

/-- The known members of an object, or the items of an array under the fields that they stand for. -/
def fields : Document → List (Field × Written)
  | .object ms => ms.filterMap known?
  | .array ws => Field.all.zip ws
  | _ => []

/-- The fields with the values that are written for them. -/
def values (doc : Document) : List (Field × Json) := doc.fields.filterMap value?

/-- The keys of an object decode, and it has each field once at most; an array has an item for each
field at most. -/
def Shaped : Document → Prop
  | .object ms => (∀ m ∈ ms, (Json.decodeString? m.1).isSome = true) ∧
      ((ms.filterMap known?).map Prod.fst).Nodup
  | .array ws => ws.length ≤ Field.all.length
  | _ => False

def Accepted (doc : Document) : Prop := doc.Shaped ∧ ∀ m ∈ doc.fields, m.1.Accepts m.2

/-- The text begins with a document, and `rest` stands behind it. -/
def Begins (text : String) (doc : Document) (rest : String) : Prop :=
  Written.read? text.toList = some (doc, rest.toList)

end Document

/-- The first of the members of an object at fault, with the place and the reason that are reported. -/
inductive FirstFault : List (List Piece × Written) → Json.Path → Reason → Prop
  | unreadable {before after : List (List Piece × Written)} {k : List Piece} {w : Written}
      (accepted : Document.Accepted (.object before)) (key : Json.decodeString? k = none) :
      FirstFault (before ++ (k, w) :: after) [.unnamed] .notJson
  | again {before after : List (List Piece × Written)} {k : List Piece} {w : Written} {f : Field}
      (accepted : Document.Accepted (.object before)) (key : Json.decodeString? k = some f.name)
      (twice : f ∈ (Document.fields (.object before)).map Prod.fst) :
      FirstFault (before ++ (k, w) :: after) [] (.duplicate f)
  | refused {before after : List (List Piece × Written)} {k : List Piece} {w : Written} {f : Field}
      {path : Json.Path} {reason : Reason} (accepted : Document.Accepted (.object before))
      (key : Json.decodeString? k = some f.name)
      (new : f ∉ (Document.fields (.object before)).map Prod.fst)
      (refusal : f.Refuses w path reason) :
      FirstFault (before ++ (k, w) :: after) (.key f.name :: path) reason

theorem ofName?_name (f : Field) : Field.ofName? f.name = some f := by
  cases f <;> rfl

theorem eq_name_of_ofName? {k : String} (h : Field.ofName? k = some f) : k = f.name := by
  have named := List.find?_some h
  exact (beq_iff_eq.mp named).symm

section Members
variable {m : List Piece × Written} {before after ms ms' : List (List Piece × Written)}
  {seen : List Field} {k : String} {path : Json.Path}

theorem known?_of_unknown (key : Json.decodeString? m.1 = some k)
    (unknown : Field.ofName? k = none) : known? m = none := by
  rw [known?, key, Option.bind_some, unknown, Option.map_none]

theorem known?_of_key (key : Json.decodeString? m.1 = some f.name) : known? m = some (f, m.2) := by
  rw [known?, key, Option.bind_some, ofName?_name, Option.map_some]

theorem takeMember_of_unknown (key : Json.decodeString? m.1 = some k)
    (unknown : Field.ofName? k = none) : c.takeMember seen m = .ok (c, seen) := by
  rw [takeMember, key]
  dsimp only
  rw [unknown]

theorem takeMember_of_key (key : Json.decodeString? m.1 = some f.name) : c.takeMember seen m =
    if f ∈ seen then .error ⟨[], .duplicate f⟩
    else ((c.take f m.2).mapError (.under (.key f.name))).map fun c => (c, f :: seen) := by
  rw [takeMember, key]
  dsimp only
  rw [ofName?_name]

/-- What a member can be. -/
theorem member_cases (m : List Piece × Written) : Json.decodeString? m.1 = none ∨
    (∃ k, Json.decodeString? m.1 = some k ∧ Field.ofName? k = none) ∨
      ∃ f, Json.decodeString? m.1 = some (Field.name f) := by
  cases key : Json.decodeString? m.1 with
  | none => exact .inl rfl
  | some k =>
    cases found : Field.ofName? k with
    | none => exact .inr (.inl ⟨k, rfl, found⟩)
    | some f => exact .inr (.inr ⟨f, congrArg some (eq_name_of_ofName? found)⟩)

namespace Document

theorem Accepted.perm (h : Accepted (.object ms)) (order : ms'.Perm ms) :
    Accepted (.object ms') := by
  obtain ⟨⟨keys, distinct⟩, all⟩ := h
  have fields := order.filterMap known?
  refine ⟨⟨fun m hm => keys m (order.mem_iff.mp hm), ?_⟩, fun m hm => all m (fields.mem_iff.mp hm)⟩
  exact (fields.map Prod.fst).nodup_iff.mpr distinct

theorem accepted_nil : Accepted (.object []) :=
  ⟨⟨by simp, List.nodup_nil⟩, by simp [fields]⟩

theorem accepted_cons_of_unknown (key : Json.decodeString? m.1 = some k)
    (unknown : Field.ofName? k = none) :
    Accepted (.object (m :: ms)) ↔ Accepted (.object ms) := by
  simp only [Accepted, Shaped, fields, List.filterMap_cons_none (known?_of_unknown key unknown),
    List.forall_mem_cons, key, Option.isSome_some, true_and]

theorem accepted_cons_of_key (key : Json.decodeString? m.1 = some f.name) :
    Accepted (.object (m :: ms)) ↔ f ∉ (fields (.object ms)).map Prod.fst ∧ f.Accepts m.2 ∧
      Accepted (.object ms) := by
  simp only [Accepted, Shaped, fields, List.filterMap_cons_some (known?_of_key key),
    List.forall_mem_cons, key, Option.isSome_some, true_and, List.map_cons, List.nodup_cons]
  tauto

theorem not_accepted_cons (key : Json.decodeString? m.1 = none) :
    ¬ Accepted (.object (m :: ms)) := by
  rintro ⟨⟨keys, -⟩, -⟩
  have decoded := keys m List.mem_cons_self
  rw [key] at decoded
  cases decoded

/-- By induction from the end: behind accepted members the next one can only be at fault by itself. -/
theorem accepted_or_firstFault (ms : List (List Piece × Written)) :
    Accepted (.object ms) ∨ ∃ path reason, FirstFault ms path reason := by
  induction ms using List.reverseRecOn with
  | nil => exact .inl accepted_nil
  | append_singleton before m ih =>
    rcases ih with accepted | ⟨path, reason, fault⟩
    · have order := List.perm_append_singleton m before
      obtain ⟨ps, w⟩ := m
      rcases member_cases (ps, w) with key | ⟨k, key, unknown⟩ | ⟨f, key⟩
      · exact .inr ⟨_, _, .unreadable accepted key⟩
      · exact .inl (((accepted_cons_of_unknown key unknown).mpr accepted).perm order)
      · by_cases twice : f ∈ (fields (.object before)).map Prod.fst
        · exact .inr ⟨_, _, .again accepted key twice⟩
        · rcases accepts_or_refuses f w with taken | ⟨path, reason, refusal⟩
          · exact .inl (((accepted_cons_of_key key).mpr ⟨twice, taken, accepted⟩).perm order)
          · exact .inr ⟨_, _, .refused accepted key twice refusal⟩
    · right
      cases fault with
      | unreadable accepted key =>
        rw [List.append_assoc]
        exact ⟨_, _, .unreadable accepted key⟩
      | again accepted key twice =>
        rw [List.append_assoc]
        exact ⟨_, _, .again accepted key twice⟩
      | refused accepted key new refusal =>
        rw [List.append_assoc]
        exact ⟨_, _, .refused accepted key new refusal⟩

theorem values_cons_of_key {v : Json} (key : Json.decodeString? m.1 = some f.name)
    (value : m.2.decode? (Json.maxLevels - 1) = some v) :
    values (.object (m :: ms)) = (f, v) :: values (.object ms) := by
  have set_off : value? (f, m.2) = some (f, v) := by rw [value?, value, Option.map_some]
  rw [values, fields, List.filterMap_cons_some (known?_of_key key),
    List.filterMap_cons_some set_off]
  rfl

/-- Accepted members are taken one by one, and the rest goes on from there. -/
theorem takeMembers_append (accepted : Accepted (.object before))
    (new : ∀ f ∈ (fields (.object before)).map Prod.fst, f ∉ seen)
    (after : List (List Piece × Written)) :
    c.takeMembers seen (before ++ after) = (c.update (values (.object before))).takeMembers
      (((fields (.object before)).map Prod.fst).reverse ++ seen) after := by
  induction before generalizing c seen with
  | nil => rfl
  | cons m before ih =>
    rw [List.cons_append, takeMembers]
    rcases member_cases m with key | ⟨k, key, unknown⟩ | ⟨f, key⟩
    · exact absurd accepted (not_accepted_cons key)
    · have same : fields (.object (m :: before)) = fields (.object before) :=
        List.filterMap_cons_none (known?_of_unknown key unknown)
      rw [takeMember_of_unknown key unknown, values, same]
      rw [same] at new
      exact ih ((accepted_cons_of_unknown key unknown).mp accepted) new
    · obtain ⟨first, ⟨v, value, taken⟩, accepted⟩ := (accepted_cons_of_key key).mp accepted
      have absent : f ∉ (values (.object before)).map Prod.fst :=
        fun again => first ((sublist_values _).subset again)
      have parts : fields (.object (m :: before)) = (f, m.2) :: fields (.object before) :=
        List.filterMap_cons_some (known?_of_key key)
      rw [parts, List.map_cons] at new
      obtain ⟨new, others⟩ := List.forall_mem_cons.mp new
      rw [takeMember_of_key key, if_neg new, take_of_takes value taken,
        values_cons_of_key key value, update_cons absent, parts, List.map_cons,
        List.reverse_cons, List.append_assoc, List.singleton_append]
      change (c.update [(f, v)]).takeMembers (f :: seen) (before ++ after) = _
      apply ih accepted
      intro g hg again
      rcases List.mem_cons.mp again with rfl | old
      · exact first hg
      · exact others g hg old

theorem takeMembers_of_accepted (accepted : Accepted (.object ms)) :
    c.takeMembers [] ms = .ok (c.update (values (.object ms))) := by
  have all : c.takeMembers [] (ms ++ []) = .ok (c.update (values (.object ms))) :=
    takeMembers_append accepted (by simp) []
  rwa [List.append_nil] at all

theorem takeMembers_of_firstFault (fault : FirstFault ms path reason) :
    c.takeMembers [] ms = .error ⟨path, reason⟩ := by
  cases fault with
  | unreadable accepted key =>
    rw [takeMembers_append accepted (by simp), takeMembers, takeMember, key]
    rfl
  | again accepted key twice =>
    rw [takeMembers_append accepted (by simp), takeMembers, takeMember_of_key key,
      if_pos (by simpa using twice)]
    rfl
  | refused accepted key new refusal =>
    rw [takeMembers_append accepted (by simp), takeMembers, takeMember_of_key key,
      if_neg (by simpa using new), take_of_refuses refusal]
    rfl

end Document

end Members

section Items
variable {i : Nat} {fs : List Field} {ws : List Written}

/-- The items of an array are taken when there are not too many of them and all are accepted. -/
theorem takeItems_of_accepts (distinct : fs.Nodup) (fits : ws.length ≤ fs.length)
    (accepted : ∀ m ∈ fs.zip ws, m.1.Accepts m.2) :
    c.takeItems i fs ws = .ok (c.update ((fs.zip ws).filterMap value?)) := by
  induction ws generalizing c i fs with
  | nil =>
    rw [takeItems, List.zip_nil_right]
    rfl
  | cons w ws ih =>
    cases fs with
    | nil => exact absurd fits (Nat.not_succ_le_zero _)
    | cons f fs =>
      obtain ⟨first, rest⟩ := List.nodup_cons.mp distinct
      rw [List.zip_cons_cons] at accepted
      obtain ⟨⟨v, value, taken⟩, all⟩ := List.forall_mem_cons.mp accepted
      have stands : value? (f, w) = some (f, v) := by rw [value?, value, Option.map_some]
      have new : f ∉ ((fs.zip ws).filterMap value?).map Prod.fst := fun again => by
        obtain ⟨m, hm, rfl⟩ := List.mem_map.mp ((sublist_values _).subset again)
        exact first (List.of_mem_zip hm).1
      rw [takeItems, take_of_takes value taken, List.zip_cons_cons,
        List.filterMap_cons_some stands, update_cons new]
      exact ih rest (Nat.le_of_succ_le_succ fits) all

theorem accepts_of_takeItems (h : c.takeItems i fs ws = .ok c') :
    ws.length ≤ fs.length ∧ ∀ m ∈ fs.zip ws, m.1.Accepts m.2 := by
  induction ws generalizing c i fs with
  | nil => simp
  | cons w ws ih =>
    cases fs with
    | nil => cases h
    | cons f fs =>
      obtain ⟨next, taken, h⟩ := exists_of_bind_eq_ok h
      obtain ⟨fits, all⟩ := ih h
      refine ⟨Nat.succ_le_succ fits, ?_⟩
      rw [List.zip_cons_cons]
      refine List.forall_mem_cons.mpr ⟨?_, all⟩
      rcases accepts_or_refuses f w with accepted | ⟨path, reason, refusal⟩
      · exact accepted
      · have taken := eq_ok_of_mapError taken
        rw [take_of_refuses refusal] at taken
        cases taken

end Items

namespace Document
variable {text rest : String} {doc : Document}

theorem nodup_fields (shaped : doc.Shaped) : (doc.fields.map Prod.fst).Nodup := by
  cases doc with
  | object ms => exact shaped.2
  | array ws =>
    rw [fields, List.zip_eq_zip_take_min, List.map_fst_zip (by simp)]
    exact List.Nodup.sublist (List.take_sublist _ _) (by decide)
  | _ => exact List.nodup_nil

theorem nodup_values (shaped : doc.Shaped) : (doc.values.map Prod.fst).Nodup :=
  (nodup_fields shaped).sublist (sublist_values doc.fields)

theorem ofWritten_eq_ok_iff :
    ofWritten doc = .ok c ↔ doc.Accepted ∧ c = standard.update doc.values := by
  cases doc with
  | object ms =>
    constructor
    · intro h
      rw [ofWritten] at h
      rcases accepted_or_firstFault ms with accepted | ⟨path, reason, fault⟩
      · rw [takeMembers_of_accepted accepted] at h
        exact ⟨accepted, (Except.ok.inj h).symm⟩
      · rw [takeMembers_of_firstFault fault] at h
        cases h
    · rintro ⟨accepted, rfl⟩
      exact takeMembers_of_accepted accepted
  | array ws =>
    constructor
    · intro h
      have accepted : Accepted (.array ws) := accepts_of_takeItems h
      rw [ofWritten, takeItems_of_accepts (by decide) accepted.1 accepted.2] at h
      exact ⟨accepted, (Except.ok.inj h).symm⟩
    · rintro ⟨⟨fits, accepted⟩, rfl⟩
      exact takeItems_of_accepts (by decide) fits accepted
  | _ =>
    constructor
    · intro h
      simp only [ofWritten] at h
      split at h <;> cases h
    · rintro ⟨shaped, -⟩
      exact shaped.1.elim

theorem read_eq_ok_iff (begins : Begins text doc rest) :
    read text = .ok c ↔ doc.Accepted ∧ c = standard.update doc.values := by
  rw [read_eq begins]
  exact ofWritten_eq_ok_iff

/-- Documents with the same values give the same configuration, whatever the order of the fields, the
unknown members among them, and the form. -/
theorem update_eq_of_mem_iff {doc' : Document} (shaped : doc.Shaped) (shaped' : doc'.Shaped)
    (same : ∀ m, m ∈ doc'.values ↔ m ∈ doc.values) (c : Configuration) :
    c.update doc'.values = c.update doc.values := by
  apply update_congr
  intro f
  apply Option.ext
  intro v
  rw [Pairs.lookup_eq_some_iff (nodup_values shaped),
    Pairs.lookup_eq_some_iff (nodup_values shaped')]
  exact same (f, v)

/-- A document that ends by itself is read alike whatever stands behind it. -/
theorem exists_front (begins : Begins text doc rest) (closed : doc.closed = true) :
    ∃ front, text = front ++ rest ∧
      ∀ rest', Begins (front ++ rest') doc rest' ∧ read (front ++ rest') = read text := by
  obtain ⟨used, parts, again⟩ := Json.read?_ends begins closed
  refine ⟨.ofList used, ?_, fun rest' => ?_⟩
  · rw [← String.toList_inj, parts, String.toList_append, String.toList_ofList]
  · have begins' : Begins (String.ofList used ++ rest') doc rest' := by
      rw [Begins, String.toList_append, String.toList_ofList]
      exact again rest'.toList
    exact ⟨begins', (read_eq begins').trans (read_eq begins).symm⟩

end Document

/-- A text that begins with a document is read if and only if the document is shaped well, which
includes that all of its keys decode, and each of its fields has a value that decodes and that it
takes. Then each part of the configuration comes from the value of its own field or has its default,
and all texts that begin with a document of the same values are read alike. What stands behind an
object or an array does not matter. A faulty object is reported by its first member at fault. -/
theorem reads_documents {text rest : String} {doc : Document}
    (begins : Document.Begins text doc rest) :
    ((∃ c, read text = .ok c) ↔ doc.Accepted) ∧
      (doc.Accepted → read text = .ok (standard.update doc.values) ∧
        ∀ text' doc' rest', Document.Begins text' doc' rest' → doc'.Accepted →
          (∀ m, m ∈ doc'.values ↔ m ∈ doc.values) → read text' = read text) ∧
      (doc.closed = true → ∃ front, text = front ++ rest ∧
        ∀ rest', Document.Begins (front ++ rest') doc rest' ∧ read (front ++ rest') = read text) ∧
      ∀ ms, doc = .object ms → ¬ doc.Accepted →
        ∃ place reason, FirstFault ms place reason ∧ read text = .error ⟨place, reason⟩ := by
  have read_iff {c : Configuration} := Document.read_eq_ok_iff (c := c) begins
  refine ⟨⟨?_, ?_⟩, ?_, Document.exists_front begins, ?_⟩
  · rintro ⟨c, done⟩
    exact (read_iff.mp done).1
  · intro accepted
    exact ⟨_, read_iff.mpr ⟨accepted, rfl⟩⟩
  · intro accepted
    have done := read_iff.mpr ⟨accepted, rfl⟩
    refine ⟨done, fun text' doc' rest' begins' accepted' same => ?_⟩
    rw [done, (Document.read_eq_ok_iff begins').mpr ⟨accepted', rfl⟩,
      Document.update_eq_of_mem_iff accepted.1 accepted'.1 same]
  · rintro ms rfl wrong
    rcases Document.accepted_or_firstFault ms with accepted | ⟨place, reason, fault⟩
    · exact absurd accepted wrong
    · refine ⟨place, reason, fault, ?_⟩
      rw [read_eq begins]
      exact Document.takeMembers_of_firstFault fault

/-- An object with an unknown member that does not decode, a key inside that comes twice and text
behind it, and an array with the same values. -/
theorem reads_documents_forms :
    let text (s : String) : List Piece := s.toList.map .char
    let object : Document := .object [(text "special_permissions",
        .object [(text "p", .array []), (text "p", .string (text "b"))]),
      (text "x", .string [.unit 0xd800]), (text "permissions", .string (text "p"))]
    let array : Document := .array [.string (text "p"), .object [(text "p", .string (text "b"))]]
    let objectText := "\x7b\"special_permissions\": \x7b\"p\": [], \"p\": \"b\"\x7d, " ++
      "\"x\": \"\\ud800\", \"permissions\": \"p\"\x7d ]"
    let arrayText := "[\"p\", \x7b\"p\": \"b\"\x7d]"
    (Document.Begins objectText object " ]" ∧ Document.Begins arrayText array "") ∧
    (∃ c, read objectText = .ok c) ∧ read arrayText = read objectText := by
  intro text object array objectText arrayText
  have begins : Document.Begins objectText object " ]" := by
    simp only [Document.Begins, object, objectText, text, String.toList_append,
      String.reduceToList]
    cbv
  have begins' : Document.Begins arrayText array "" := by
    simp only [Document.Begins, array, arrayText, text, String.reduceToList]
    cbv
  let specials : Json := .object [("p", .string "b")]
  have values : object.values = [(.specialPermissions, specials), (.permissions, .string "p")] := rfl
  have values' : array.values = [(.permissions, .string "p"), (.specialPermissions, specials)] := rfl
  have textual : Field.specialPermissions.Takes specials := Definition.textual_of_ofJson rfl
  have name : Field.permissions.Takes (.string "p") := .string "p"
  have accepted : object.Accepted := by
    refine (Document.accepted_cons_of_key rfl).mpr ⟨by decide, ⟨specials, rfl, textual⟩, ?_⟩
    refine (Document.accepted_cons_of_unknown rfl rfl).mpr ?_
    exact (Document.accepted_cons_of_key rfl).mpr
      ⟨by decide, ⟨.string "p", rfl, name⟩, Document.accepted_nil⟩
  have accepted' : array.Accepted := by
    have fits : 2 ≤ Field.all.length := by decide
    refine ⟨fits, ?_⟩
    change ∀ m ∈ [(Field.permissions, _), (Field.specialPermissions, _)], _
    simp only [List.forall_mem_cons]
    exact ⟨⟨.string "p", rfl, name⟩, ⟨specials, rfl, textual⟩, by simp⟩
  obtain ⟨-, read, -⟩ := reads_documents begins
  obtain ⟨done, alike⟩ := read accepted
  refine ⟨⟨begins, begins'⟩, ⟨_, done⟩, alike _ _ _ begins' accepted' fun m => ?_⟩
  rw [values, values']
  exact (List.Perm.swap _ _ []).mem_iff

/-- An object without a known field, which is refused for a key that does not decode. -/
theorem key_of_unpaired_surrogate :
    let object : Document := .object [([.unit 0xd800], .number ⟨false, ['1'], none, none⟩)]
    let text := "\x7b\"\\ud800\": 1\x7d"
    Document.Begins text object "" ∧ object.fields = [] ∧
      read text = .error ⟨[.unnamed], .notJson⟩ := by
  intro object text
  have begins : Document.Begins text object "" := by
    simp only [Document.Begins, object, text, String.reduceToList]
    cbv
  exact ⟨begins, rfl, read_eq begins⟩

end Entitlements.Configuration
