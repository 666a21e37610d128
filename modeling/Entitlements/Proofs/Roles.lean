import Entitlements.Proofs.Configuration
import Entitlements.Proofs.Sync.Contents

set_option autoImplicit false

/-!
Names of authored roles. A role is named by its key as the key is spelled back. So roles keep their
names, their order and their definitions as long as no key is a number with zeros in front; such a
role is renamed, and replaced when another one has the name already.
-/

namespace Entitlements
open Definition (authored)

namespace OrderedMap
variable {β : Type}

/-- Keys stand where they came first. -/
theorem keys_insertAll (m : OrderedMap β) (es : List (String × β)) :
    (m.insertAll es).keys = (m.keys ++ es.map Prod.fst).eraseDups := by
  induction es generalizing m with
  | nil =>
    rw [List.map_nil, List.append_nil, eraseDups_of_nodup m.nodup_keys]
    rfl
  | cons e es ih =>
    change ((m.insert e.1 e.2).insertAll es).keys = _
    rw [ih, keys_insert, List.map_cons, eraseDups_append_cons]

theorem keys_ofList (es : List (String × β)) : (ofList es).keys = (es.map Prod.fst).eraseDups :=
  keys_insertAll ∅ es

/-- The value of a key is the last one that came. -/
theorem get?_ofList_eq_some_iff {es : List (String × β)} {k : String} {v : β} :
    (ofList es).get? k = some v ↔
      ∃ front back, es = front ++ (k, v) :: back ∧ ∀ e ∈ back, e.1 ≠ k := by
  rw [ofList, get?_insertAll, get?_empty, Option.or_none, List.lookup_eq_some_iff]
  constructor
  · rintro ⟨back, front, parts, others⟩
    refine ⟨front.reverse, back.reverse, ?_, ?_⟩
    · rw [← List.reverse_reverse es, parts]
      simp
    · intro e he
      exact (bne_iff_ne.mp (others e (List.mem_reverse.mp he))).symm
  · rintro ⟨front, back, rfl, others⟩
    refine ⟨back.reverse, front.reverse, by simp, ?_⟩
    intro e he
    exact bne_iff_ne.mpr (others e (List.mem_reverse.mp he)).symm

end OrderedMap

namespace RoleTable

/-- Members as roles: the key spelled back, and the definition of its value. -/
def roleOf (m : String × Json) : String × Definition :=
  (Definition.Key.respelled m.1, authored m.2)

theorem ofJson_roles {ms : List (String × Json)} (textual : (Json.object ms).Textual) :
    Definition.ofJson (.object ms) =
      .ok (.mapping (ms.map fun m => (.ofString m.1, authored m.2))) := by
  cases textual with
  | object members =>
    apply Definition.ofJson_object
    intro m hm
    exact Definition.ofJson_of_textual (members m hm)

theorem ofDefinition?_roles (ms : List (String × Json)) :
    ofDefinition? (.mapping (ms.map fun m => (.ofString m.1, authored m.2))) =
      some (.ofList (ms.map roleOf)) := by
  rw [ofDefinition?, List.map_map]
  congr 2
  apply List.map_congr_left
  intro m _
  exact congrArg (·, authored m.2) (Definition.Key.toName_ofString m.1)

/-- The roles are the members as they are if and only if no key has zeros in front. -/
theorem toList_roles_eq_iff {ms : List (String × Json)} (distinct : (ms.map Prod.fst).Nodup) :
    (OrderedMap.ofList (ms.map roleOf)).toList = ms.map (fun m => (m.1, authored m.2)) ↔
      ∀ m ∈ ms, Definition.Key.padded m.1 = false := by
  constructor
  · -- A padded key is not the spelling of any key, so it is not among the roles.
    intro same m hm
    have key : m.1 ∈ (OrderedMap.ofList (ms.map roleOf)).keys := by
      rw [OrderedMap.keys, same, List.map_map]
      exact List.mem_map_of_mem hm
    rw [OrderedMap.keys_ofList, List.mem_eraseDups, List.map_map] at key
    obtain ⟨m', -, spelled⟩ := List.mem_map.mp key
    rw [← spelled]
    exact Definition.Key.padded_respelled m'.1
  · intro plain
    have same : ms.map roleOf = ms.map fun m => (m.1, authored m.2) := by
      apply List.map_congr_left
      intro m hm
      exact congrArg (·, authored m.2) (Definition.Key.respelled_eq_self_iff.mpr (plain m hm))
    rw [same]
    apply OrderedMap.toList_ofList
    rw [List.map_map]
    exact distinct

/-- A role has the definition that came last under a key of its spelling. -/
theorem get?_roles_eq_some_iff {ms : List (String × Json)} {name : String} {d : Definition} :
    (OrderedMap.ofList (ms.map roleOf)).get? name = some d ↔
      ∃ front m back, ms = front ++ m :: back ∧ Definition.Key.respelled m.1 = name ∧
        authored m.2 = d ∧ ∀ m' ∈ back, Definition.Key.respelled m'.1 ≠ name := by
  rw [OrderedMap.get?_ofList_eq_some_iff]
  constructor
  · rintro ⟨front, back, parts, others⟩
    obtain ⟨front, rest, rfl, -, parts⟩ := List.map_eq_append_iff.mp parts
    obtain ⟨m, back, rfl, made, rfl⟩ := List.map_eq_cons_iff.mp parts
    obtain ⟨spelled, read⟩ := Prod.mk.inj made
    exact ⟨front, m, back, rfl, spelled, read, fun m' hm' => others _ (List.mem_map_of_mem hm')⟩
  · rintro ⟨front, m, back, rfl, rfl, rfl, others⟩
    refine ⟨front.map roleOf, back.map roleOf, by simp [roleOf], fun e he => ?_⟩
    obtain ⟨m', hm', rfl⟩ := List.mem_map.mp he
    exact others m' hm'

end RoleTable

theorem Policy.keys_grants (p : Policy) : p.grants.keys = p.roles.keys := by
  rw [OrderedMap.keys, Policy.grants, OrderedMap.toList_mapEntries, List.map_map]
  rfl

/-- A report names the compiled roles in their order, then the super admin roles that are not among
them. -/
theorem Database.keys_rolesProcessed (p : Policy) (admins : SuperAdmins) (guard : String) :
    (reportOf p admins guard).rolesProcessed.keys =
      p.roles.keys ++ admins.names.filter (· ∉ p.roles.keys) := by
  rw [OrderedMap.keys, toList_rolesProcessed, p.keys_grants, List.map_append, List.map_map,
    List.map_map, ← p.keys_grants]
  congr 1
  exact List.map_id _

namespace Configuration

/-- Roles are read from every object of textual values with distinct keys. They are the members as
authored, in their order, if and only if no key is a number with zeros in front. In any case they are
named by the keys as these are spelled back, each at its first place and with its last definition; and
so are the compiled roles and those that a sync reports. -/
theorem roles_are_respelled_members {ms : List (String × Json)}
    (textual : (Json.object ms).Textual) (distinct : (ms.map Prod.fst).Nodup) :
    ∃ d t, Definition.ofJson (.object ms) = .ok d ∧ RoleTable.ofDefinition? d = some t ∧
      readRoles (.object ms) = .ok t ∧ (∀ m ∈ ms, Definition.ofJson m.2 = .ok (authored m.2)) ∧
      (t.toList = ms.map (fun m => (m.1, authored m.2)) ↔
        ∀ m ∈ ms, Definition.Key.padded m.1 = false) ∧
      t.keys = (ms.map fun m => Definition.Key.respelled m.1).eraseDups ∧
      (∀ name d, t.get? name = some d ↔
        ∃ front m back, ms = front ++ m :: back ∧ Definition.Key.respelled m.1 = name ∧
          authored m.2 = d ∧ ∀ m' ∈ back, Definition.Key.respelled m'.1 ≠ name) ∧
      ∀ resources specials : ItemTable,
        let p : Policy := ⟨resources, specials, t⟩
        p.grants.toList = t.toList.map (fun e => (e.1, p.catalog.grant e.1 e.2)) ∧
        ∀ cs admins guard report db',
          Database.sync p admins guard (Database.run Database.fresh cs) = .ok report db' →
            report.rolesProcessed.keys = t.keys ++ admins.names.filter (· ∉ t.keys) := by
  have read := RoleTable.ofJson_roles textual
  have table := RoleTable.ofDefinition?_roles ms
  refine ⟨_, _, read, table, readRoles_of_table read table, ?_,
    RoleTable.toList_roles_eq_iff distinct, ?_, fun name d => RoleTable.get?_roles_eq_some_iff, ?_⟩
  · cases textual with
    | object members =>
      intro m hm
      exact Definition.ofJson_of_textual (members m hm)
  · rw [OrderedMap.keys_ofList, List.map_map]
    rfl
  · intro resources specials p
    refine ⟨rfl, fun cs admins guard report db' done => ?_⟩
    obtain ⟨rfl, -⟩ := Database.contents_of_sync (Database.wellFormed_run cs) done
    exact Database.keys_rolesProcessed p admins (Text.trim guard)

/-- Numbers without zeros in front and numbers beyond `2 ^ 64` are names like any other. -/
theorem roles_are_respelled_members_numbers :
    let ms : List (String × Json) := [("20", .string "*"), ("editor", .array [.string "posts"]),
      ("0018446744073709551616", .string "*"), ("3", .object [])]
    ((Json.object ms).Textual ∧ (ms.map Prod.fst).Nodup) ∧
    ∃ t, readRoles (.object ms) = .ok t ∧
      t.keys = ["20", "editor", "0018446744073709551616", "3"] := by
  intro ms
  have textual : (Json.object ms).Textual := (Definition.ofJson_eq_ok_iff.mp rfl).1
  have distinct : (ms.map Prod.fst).Nodup := by decide
  refine ⟨⟨textual, distinct⟩, ?_⟩
  obtain ⟨d, t, -, -, read, -, same, -⟩ := roles_are_respelled_members textual distinct
  refine ⟨t, read, ?_⟩
  rw [OrderedMap.keys, same.mpr (by decide)]
  rfl

/-- A role whose key is a number with a zero in front is not there by its name. -/
theorem padded_role_is_replaced :
    ¬ ∀ ms : List (String × Json), (Json.object ms).Textual → (ms.map Prod.fst).Nodup →
      ∃ t, readRoles (.object ms) = .ok t ∧ t.keys = ms.map Prod.fst := by
  intro always
  let ms : List (String × Json) := [("07", .string "read posts"), ("7", .string "*")]
  have textual : (Json.object ms).Textual := (Definition.ofJson_eq_ok_iff.mp rfl).1
  obtain ⟨t, read, keys⟩ := always ms textual (by decide)
  have one : readRoles (.object ms) = .ok (.ofList [("7", .scalar "*")]) := rfl
  rw [one] at read
  cases read
  exact absurd keys (by decide)

end Configuration

end Entitlements
