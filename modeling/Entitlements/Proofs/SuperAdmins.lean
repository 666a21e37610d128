import Entitlements.Proofs.Json.RoundTrip
import Entitlements.Proofs.Text.Trim
import Entitlements.SuperAdmins
import Mathlib.Logic.Relation

set_option autoImplicit false

/-!
Who passes every check. A principal passes just when one of the authored names, trimmed, is a role
that it holds; blank names stand for no role. So lists of names decide alike for every principal if
and only if they are the same up to order, repetitions, outer blanks and blank names.
-/

namespace Entitlements

namespace Principal

theorem hasRole_ofRoles {roles : List String} {role : String} :
    (ofRoles roles).hasRole role = true ↔ role ∈ roles := by
  rw [hasRole, ofRoles, NameSet.toList_ofList, List.contains_iff_mem, List.mem_eraseDups]

end Principal

namespace SuperAdmins
variable {s : SuperAdmins} {names names' : List String} {role : String}

theorem names_ofList (names : List String) :
    (ofList names).names = (Text.trimNames names).eraseDups := NameSet.toList_ofList _

theorem mem_names_ofList : role ∈ (ofList names).names ↔
    ∃ name ∈ names, Text.isBlank name = false ∧ Text.trim name = role := by
  rw [names_ofList, List.mem_eraseDups, Text.mem_trimNames]
  constructor
  · rintro ⟨visible, name, authored, rfl⟩
    exact ⟨name, authored, Text.isBlank_eq_false_iff.mpr visible, rfl⟩
  · rintro ⟨name, authored, visible, rfl⟩
    exact ⟨Text.isBlank_eq_false_iff.mp visible, name, authored, rfl⟩

theorem contains_eq_true_iff : s.contains role = true ↔ role ∈ s.names := List.contains_iff_mem

section Verdicts
variable {holds holds' : String → Bool}

theorem isHeldBy_eq_true_iff :
    s.isHeldBy holds = true ↔ ∃ role ∈ s.names, holds role = true := List.any_eq_true

theorem verdict_eq_some_true_iff :
    s.verdict holds = some true ↔ ∃ role ∈ s.names, holds role = true := by
  rw [← isHeldBy_eq_true_iff, verdict]
  split <;> simp_all

theorem verdict_ofList (names : List String) (holds : String → Bool) :
    (ofList names).verdict holds =
      if ∃ name ∈ names, Text.isBlank name = false ∧ holds (Text.trim name) = true
      then some true else none := by
  have held : (ofList names).isHeldBy holds = true ↔
      ∃ name ∈ names, Text.isBlank name = false ∧ holds (Text.trim name) = true := by
    rw [isHeldBy_eq_true_iff]
    constructor
    · rintro ⟨role, member, granted⟩
      obtain ⟨name, authored, visible, rfl⟩ := mem_names_ofList.mp member
      exact ⟨name, authored, visible, granted⟩
    · rintro ⟨name, authored, visible, granted⟩
      exact ⟨_, mem_names_ofList.mpr ⟨name, authored, visible, rfl⟩, granted⟩
  rw [verdict]
  exact if_congr held rfl rfl

theorem verdict_mono (more : ∀ role, holds role = true → holds' role = true)
    (passes : s.verdict holds = some true) : s.verdict holds' = some true := by
  rw [verdict_eq_some_true_iff] at passes ⊢
  obtain ⟨role, member, held⟩ := passes
  exact ⟨role, member, more role held⟩

/-- Principals that hold one role each tell the sets apart. -/
theorem verdicts_eq_iff {t : SuperAdmins} : (∀ holds, t.verdict holds = s.verdict holds) ↔
    ∀ role, role ∈ t.names ↔ role ∈ s.names := by
  constructor
  · intro same role
    have only (u : SuperAdmins) : role ∈ u.names ↔ u.verdict (· == role) = some true := by
      rw [verdict_eq_some_true_iff]
      simp
    rw [only, only, same]
  · intro same holds
    have held : t.isHeldBy holds = s.isHeldBy holds := by
      rw [Bool.eq_iff_iff, isHeldBy_eq_true_iff, isHeldBy_eq_true_iff]
      simp only [same]
    rw [verdict, verdict, held]

end Verdicts

/-- Names in another order, some of them again, with other outer blanks, or with more blank ones. -/
inductive Restated : List String → List String → Prop
  | reordered {names names' : List String} (order : names.Perm names') : Restated names names'
  | repeated {names again : List String} (old : again ⊆ names) : Restated names (names ++ again)
  | padded {names names' : List String} (same : names.map Text.trim = names'.map Text.trim) :
    Restated names names'
  | blanks {names more : List String} (blank : ∀ name ∈ more, Text.isBlank name = true) :
    Restated names (names ++ more)

theorem Restated.mem_trimNames_iff (h : Restated names names') :
    role ∈ Text.trimNames names' ↔ role ∈ Text.trimNames names := by
  cases h with
  | reordered order => simp only [Text.mem_trimNames, order.mem_iff]
  | repeated old =>
    rw [Text.trimNames_append, List.mem_append, or_iff_left_iff_imp, Text.mem_trimNames,
      Text.mem_trimNames]
    rintro ⟨visible, name, again, trimmed⟩
    exact ⟨visible, name, old again, trimmed⟩
  | padded same => rw [Text.trimNames, Text.trimNames, same]
  | blanks blank =>
    rw [Text.trimNames_append, List.mem_append, or_iff_left_iff_imp, Text.mem_trimNames]
    rintro ⟨visible, name, more, rfl⟩
    exact absurd (Text.trim_eq_empty_iff.mpr (blank name more)) visible

theorem mem_trimNames_iff_of_restated (h : Relation.EqvGen Restated names names') :
    role ∈ Text.trimNames names' ↔ role ∈ Text.trimNames names := by
  induction h with
  | rel _ _ step => exact step.mem_trimNames_iff
  | refl _ => rfl
  | symm _ _ _ ih => exact ih.symm
  | trans _ _ _ _ _ first second => exact second.trans first

/-- Each of two lists with the same members can be put behind the other. -/
theorem restated_of_mem_iff (same : ∀ name, name ∈ names' ↔ name ∈ names) :
    Relation.EqvGen Restated names names' := by
  have first : Restated names (names ++ names') := .repeated fun name h => (same name).mp h
  have second : Restated names' (names' ++ names) := .repeated fun name h => (same name).mpr h
  have swapped : Restated (names ++ names') (names' ++ names) :=
    .reordered List.perm_append_comm
  refine .trans _ _ _ (.rel _ _ first) ?_
  exact .trans _ _ _ (.rel _ _ swapped) (.symm _ _ (.rel _ _ second))

theorem restated_trimNames (names : List String) :
    Relation.EqvGen Restated names (Text.trimNames names) := by
  have trimmed : Restated names (names.map Text.trim) := .padded (by simp [Text.trim_trim])
  have parted := List.filter_append_perm (· ≠ "") (names.map Text.trim)
  refine .trans _ _ _ (.rel _ _ trimmed) (.trans _ _ _ (.rel _ _ (.reordered parted.symm)) ?_)
  refine .symm _ _ (.rel _ _ (.blanks fun name h => ?_))
  have empty : name = "" := by simpa using List.of_mem_filter h
  rw [empty]
  rfl

/-- Some principal tells two lists apart unless they are the same names stated in another way. -/
theorem restated_iff : Relation.EqvGen Restated names names' ↔
    ∀ holds, (ofList names').verdict holds = (ofList names).verdict holds := by
  rw [verdicts_eq_iff]
  simp only [names_ofList, List.mem_eraseDups]
  constructor
  · exact fun h role => mem_trimNames_iff_of_restated h
  · intro same
    refine .trans _ _ _ (restated_trimNames names) ?_
    exact .trans _ _ _ (restated_of_mem_iff same) (.symm _ _ (restated_trimNames names'))

theorem strings?_map (names : List String) : strings? (names.map .string) = some names := by
  induction names with
  | nil => rfl
  | cons n ns ih =>
    rw [List.map_cons, strings?, ih]
    rfl

theorem eq_map_of_strings? {vs : List Json} (h : strings? vs = some names) :
    vs = names.map .string := by
  fun_induction strings? vs generalizing names with
  | case1 =>
    cases h
    rfl
  | case2 s vs ih =>
    obtain ⟨ns, rest, rfl⟩ := Option.map_eq_some_iff.mp h
    rw [List.map_cons, ih rest]
  | case3 => cases h

@[simp] theorem ofJson?_ofStrings (names : List String) :
    ofJson? (.ofStrings names) = some (ofList names) :=
  congrArg (Option.map ofList) (strings?_map names)

theorem trimmed_of_mem_names (member : role ∈ (ofList names).names) : Text.Trimmed role := by
  obtain ⟨name, -, visible, rfl⟩ := mem_names_ofList.mp member
  exact Text.trimmed_trim (Text.isBlank_eq_false_iff.mp visible)

/-- The names of a set are authored names of the same set. -/
theorem ofList_names_ofList (names : List String) : ofList (ofList names).names = ofList names := by
  have same : (ofList (ofList names).names).names = (ofList names).names := by
    rw [names_ofList, Text.trimNames_of_trimmed fun _ => trimmed_of_mem_names,
      eraseDups_of_nodup (nodup_names _)]
  exact congrArg SuperAdmins.mk (NameSet.ext same)

theorem read?_render_toJson (names : List String) :
    (Json.read? (ofList names).toJson.render).bind ofJson? = some (ofList names) := by
  rw [toJson, Json.read?_render (Json.plain_ofStrings _ _), Option.bind_some, ofJson?_ofStrings,
    ofList_names_ofList]

/-- Super admins are authored as a list, as one name, as a JSON value or as the text of one. -/
inductive Form where
  | list (names : List String)
  | single (name : String)
  | json (v : Json)
  | text (document : String)

namespace Form

def superAdmins? : Form → Option SuperAdmins
  | .list names => some (ofList names)
  | .single name => some (SuperAdmins.single name)
  | .json v => ofJson? v
  | .text document => (Json.read? document).bind ofJson?

/-- The names that are authored. In JSON they stand in an array, or one stands by itself. -/
inductive Gives : Form → List String → Prop
  | list (names : List String) : Gives (.list names) names
  | single (name : String) : Gives (.single name) [name]
  | string (name : String) : Gives (.json (.string name)) [name]
  | array (names : List String) : Gives (.json (.ofStrings names)) names
  | text {document : String} {v : Json} {names : List String} (read : Json.read? document = some v)
    (gives : Gives (.json v) names) : Gives (.text document) names

theorem Gives.superAdmins? {form : Form} (h : form.Gives names) :
    form.superAdmins? = some (ofList names) := by
  induction h with
  | list names => rfl
  | single name => rfl
  | string name => rfl
  | array names => exact ofJson?_ofStrings names
  | text read _ ih =>
    rw [Form.superAdmins?, read]
    exact ih

end Form

/-- However names are authored, a principal passes when one of them, without its outer blanks, is a
role that it holds, and otherwise nothing is decided. Reordering, repeating and padding names and
adding blank ones leaves every decision as it is, and no other change of the names does. With more
roles a principal still passes, and the set is read back from its JSON text as it was. -/
theorem bypass_is_for_authored_names {form : Form} (authored : form.Gives names) :
    let s := ofList names
    form.superAdmins? = some s ∧
    (∀ role, s.contains role = true ↔
      ∃ name ∈ names, Text.isBlank name = false ∧ Text.trim name = role) ∧
    (∀ holds : String → Bool, s.verdict holds =
      if ∃ name ∈ names, Text.isBlank name = false ∧ holds (Text.trim name) = true
      then some true else none) ∧
    (∀ roles, s.verdict (Principal.ofRoles roles).hasRole =
      if ∃ name ∈ names, Text.isBlank name = false ∧ Text.trim name ∈ roles
      then some true else none) ∧
    (∀ names', Relation.EqvGen Restated names names' ↔
      ∀ holds, (ofList names').verdict holds = s.verdict holds) ∧
    (∀ holds holds' : String → Bool, (∀ role, holds role = true → holds' role = true) →
      s.verdict holds = some true → s.verdict holds' = some true) ∧
    (Json.read? s.toJson.render).bind ofJson? = some s := by
  intro s
  refine ⟨authored.superAdmins?, fun role => contains_eq_true_iff.trans mem_names_ofList,
    verdict_ofList names, fun roles => ?_, fun names' => restated_iff, fun _ _ => verdict_mono,
    read?_render_toJson names⟩
  rw [verdict_ofList]
  simp only [Principal.hasRole_ofRoles]

/-- The text of an array with a padded name, a blank one, and a name that comes twice. -/
theorem bypass_is_for_authored_names_padded :
    let names := [" owner\u3000", "\t", "root", "owner"]
    let form := Form.text "[\" owner\u3000\",\"\\t\",\"root\",\"owner\"]"
    let s := ofList names
    form.Gives names ∧ form.superAdmins? = some s ∧
      s.verdict (Principal.ofRoles ["editor", "owner"]).hasRole = some true ∧
      s.verdict (Principal.ofRoles ["", "\t", " owner"]).hasRole = none := by
  intro names form s
  have printed : form = .text (Json.ofStrings names).render :=
    congrArg Form.text (by decide +kernel)
  have authored : form.Gives names := by
    rw [printed]
    exact .text (Json.read?_render (Json.plain_ofStrings _ names)) (.array names)
  obtain ⟨same, -, -, principals, -⟩ := bypass_is_for_authored_names authored
  refine ⟨authored, same, ?_, ?_⟩
  · rw [principals]
    decide +kernel
  · rw [principals]
    decide +kernel

end SuperAdmins

end Entitlements
