import Entitlements.NameSet
import Entitlements.Proofs.ItemTable

set_option autoImplicit false

/-!
Tables as they are built. A definition and the calls behind it are one row of contributions, and the
table holds what they contribute: resources and items without outer blanks, each once, in the order
in which they came first.
-/

namespace Entitlements

namespace ItemTable
variable {t : ItemTable} {cs : List (String × List String)}

theorem eq_of_items {t u : ItemTable} (keys : t.keys = u.keys)
    (items : ∀ r, t.items r = u.items r) : t = u := by
  apply OrderedMap.ext
  rw [toList_eq_map_items, toList_eq_map_items, keys]
  simp only [items]

/-- Items come to the end, those that are there already left out. -/
theorem addItems_eq {old : List String} (nodup : old.Nodup) (items : List String) :
    addItems old items = (old ++ Text.trimNames items).eraseDups := by
  induction items generalizing old with
  | nil => simp [addItems, eraseDups_of_nodup nodup]
  | cons item items ih =>
    rw [addItems_cons, addItem_eq, Text.trimNames_cons]
    by_cases blank : Text.trim item = ""
    · simp only [blank, true_or, if_true]
      exact ih nodup
    · simp only [blank, false_or, if_false]
      rw [eraseDups_append_cons]
      split
      · exact ih nodup
      · exact ih (nodup_concat nodup (by assumption))

theorem addItems_append (old xs ys : List String) :
    addItems old (xs ++ ys) = addItems (addItems old xs) ys := List.foldl_append ..

/-- Items added in two parts come to the same as all at once. -/
theorem add_append (t : ItemTable) (resource : String) (xs ys : List String) :
    t.add resource (xs ++ ys) = (t.add resource xs).add resource ys := by
  unfold add
  simp only
  split
  · rfl
  · simp only [OrderedMap.alter_alter, Option.getD_some, addItems_append]

theorem keys_add (t : ItemTable) (resource : String) (items : List String) :
    (t.add resource items).keys = (t.keys ++ Text.trimNames [resource]).eraseDups := by
  unfold add
  simp only [Text.trimNames_cons, Text.trimNames_nil]
  split
  · rw [List.append_nil, eraseDups_of_nodup t.nodup_keys]
  · rw [OrderedMap.keys_alter, eraseDups_append_cons, List.append_nil]
    split
    · rw [eraseDups_of_nodup t.nodup_keys]
    · rw [eraseDups_of_nodup (nodup_concat t.nodup_keys (by assumption))]

/-- The items that a row of contributions has for a resource. -/
def contributed (cs : List (String × List String)) (r : String) : List String :=
  Text.trimNames ((cs.filter fun c => r = Text.trim c.1 ∧ r ≠ "").flatMap Prod.snd)

theorem mem_contributed {r x : String} :
    x ∈ contributed cs r ↔
      r ≠ "" ∧ x ≠ "" ∧ ∃ c ∈ cs, Text.trim c.1 = r ∧ ∃ y ∈ c.2, Text.trim y = x := by
  simp only [contributed, Text.mem_trimNames, List.mem_flatMap, List.mem_filter, decide_eq_true_eq]
  constructor
  · rintro ⟨visible, y, ⟨c, ⟨hc, own, named⟩, hy⟩, trimmed⟩
    exact ⟨named, visible, c, hc, own.symm, y, hy, trimmed⟩
  · rintro ⟨named, visible, c, hc, own, y, hy, trimmed⟩
    exact ⟨visible, y, ⟨c, ⟨hc, own.symm, named⟩, hy⟩, trimmed⟩

theorem contributed_append (cs ds : List (String × List String)) (r : String) :
    contributed (cs ++ ds) r = contributed cs r ++ contributed ds r := by
  simp [contributed, Text.trimNames_append]

theorem keys_addAll (t : ItemTable) (cs : List (String × List String)) :
    (t.addAll cs).keys = (t.keys ++ Text.trimNames (cs.map Prod.fst)).eraseDups := by
  induction cs generalizing t with
  | nil => simp [addAll, eraseDups_of_nodup t.nodup_keys]
  | cons c cs ih =>
    have first : Text.trimNames ((c :: cs).map Prod.fst) =
        Text.trimNames [c.1] ++ Text.trimNames (cs.map Prod.fst) := Text.trimNames_append [c.1] _
    rw [addAll_cons, ih, keys_add, eraseDups_append_eraseDups, first, List.append_assoc]

theorem contributed_singleton (c : String × List String) (r : String) :
    contributed [c] r = if r = Text.trim c.1 ∧ r ≠ "" then Text.trimNames c.2 else [] := by
  unfold contributed
  split
  · rename_i own
    rw [List.filter_cons_of_pos (by simpa using own), List.filter_nil, List.flatMap_singleton]
  · rename_i other
    rw [List.filter_cons_of_neg (by simpa using other), List.filter_nil, List.flatMap_nil,
      Text.trimNames_nil]

theorem items_add_eq {r : String} (nodup : (t.items r).Nodup) (c : String × List String) :
    (t.add c.1 c.2).items r = (t.items r ++ contributed [c] r).eraseDups := by
  rw [items_add, contributed_singleton]
  split
  · exact addItems_eq nodup c.2
  · rw [List.append_nil, eraseDups_of_nodup nodup]

theorem items_addAll {r : String} (nodup : (t.items r).Nodup)
    (cs : List (String × List String)) :
    (t.addAll cs).items r = (t.items r ++ contributed cs r).eraseDups := by
  induction cs generalizing t with
  | nil => simp [addAll, contributed, eraseDups_of_nodup nodup]
  | cons c cs ih =>
    have step := items_add_eq nodup c
    have kept : ((t.add c.1 c.2).items r).Nodup := by
      rw [step]
      exact nodup_eraseDups _
    rw [addAll_cons, ih kept, step, eraseDups_append_eraseDups, List.append_assoc,
      ← contributed_append, List.singleton_append]

/-- A definition of resources contributes each name without a key with the default actions, and
each key with the actions under it. -/
def resourceContributions : Definition.Key × Definition → List (String × List String)
  | (.position _, v) => v.tokens.map (·, defaultActions)
  | (.name resource, v) => [(resource, v.tokens)]

/-- A definition of special items contributes its keys alone. -/
def specialContributions : Definition.Key × Definition → List (String × List String)
  | (.position _, _) => []
  | (.name resource, v) => [(resource, v.tokens)]

/-- A table made from a definition and calls behind it, and what these contribute in a row. -/
inductive Built : ItemTable → List (String × List String) → Prop
  | resources (d : Definition) : Built (ofResources d) (d.entries.flatMap resourceContributions)
  | specials (d : Definition) : Built (ofSpecials d) (d.entries.flatMap specialContributions)
  | add {t : ItemTable} {cs : List (String × List String)} (built : Built t cs)
    (resource : String) (items : List String) :
    Built (t.add resource items) (cs ++ [(resource, items)])
  | crud {t : ItemTable} {cs : List (String × List String)} (built : Built t cs)
    (resource : String) : Built (t.addCrud resource) (cs ++ [(resource, defaultActions)])

theorem addAll_nil (t : ItemTable) : t.addAll [] = t := List.foldl_nil

theorem addAll_singleton (t : ItemTable) (c : String × List String) :
    t.addAll [c] = t.add c.1 c.2 := by rw [addAll_cons, addAll_nil]

theorem addAll_append (t : ItemTable) (cs ds : List (String × List String)) :
    t.addAll (cs ++ ds) = (t.addAll cs).addAll ds := List.foldl_append ..

theorem addAll_flatMap {α : Type} (t : ItemTable) (f : α → List (String × List String))
    (as : List α) : t.addAll (as.flatMap f) = as.foldl (fun t a => t.addAll (f a)) t :=
  List.foldl_flatMap ..

theorem ofResources_eq (d : Definition) :
    ofResources d = addAll ∅ (d.entries.flatMap resourceContributions) := by
  rw [addAll_flatMap, ofResources]
  congr 1
  funext t e
  obtain ⟨k, v⟩ := e
  cases k with
  | position n =>
    rw [resourceContributions, addAll, List.foldl_map]
    rfl
  | name resource => rw [resourceContributions, addAll_singleton]

theorem ofSpecials_eq (d : Definition) :
    ofSpecials d = addAll ∅ (d.entries.flatMap specialContributions) := by
  rw [addAll_flatMap, ofSpecials]
  congr 1
  funext t e
  obtain ⟨k, v⟩ := e
  cases k with
  | position n => rw [specialContributions, addAll_nil]
  | name resource => rw [specialContributions, addAll_singleton]

namespace Built

/-- Whatever a table is built by, it comes to adding the contributions one by one. -/
theorem eq_addAll (built : Built t cs) : t = addAll ∅ cs := by
  induction built with
  | resources d => exact ofResources_eq d
  | specials d => exact ofSpecials_eq d
  | add _ resource items ih =>
    rw [addAll_append, ← ih, addAll_singleton]
  | crud _ resource ih =>
    rw [addAll_append, ← ih, addAll_singleton, addCrud]

theorem keys_eq (built : Built t cs) : t.keys = (Text.trimNames (cs.map Prod.fst)).eraseDups := by
  rw [built.eq_addAll, keys_addAll, OrderedMap.keys_empty, List.nil_append]

theorem items_eq (built : Built t cs) (r : String) : t.items r = (contributed cs r).eraseDups := by
  have none : (∅ : ItemTable).items r = [] := rfl
  rw [built.eq_addAll, items_addAll (by simp [none]), none, List.nil_append]

theorem mem_items_iff (built : Built t cs) {r x : String} :
    x ∈ t.items r ↔
      r ≠ "" ∧ x ≠ "" ∧ ∃ c ∈ cs, Text.trim c.1 = r ∧ ∃ y ∈ c.2, Text.trim y = x := by
  rw [built.items_eq, List.mem_eraseDups, mem_contributed]

theorem nodup_items (built : Built t cs) (r : String) : (t.items r).Nodup := by
  rw [built.items_eq]
  exact nodup_eraseDups _

theorem tidy (built : Built t cs) : t.Tidy := by
  rw [built.eq_addAll]
  exact tidy_empty.addAll cs

theorem trimmed_of_mem_keys (built : Built t cs) {r : String} (h : r ∈ t.keys) :
    Text.Trimmed r := by
  rw [built.keys_eq, List.mem_eraseDups, Text.mem_trimNames] at h
  obtain ⟨named, y, -, rfl⟩ := h
  exact Text.trimmed_trim named

/-- What was contributed once is there, and contributing it again changes nothing. -/
theorem add_of_mem (built : Built t cs) {c : String × List String} (h : c ∈ cs) :
    t.add c.1 c.2 = t := by
  have again : Built (t.add c.1 c.2) (cs ++ [c]) := built.add c.1 c.2
  apply eq_of_items
  · rw [again.keys_eq, built.keys_eq, List.map_append, Text.trimNames_append]
    apply eraseDups_append_of_subset
    intro r hr
    simp only [List.map_singleton, Text.mem_trimNames, List.mem_singleton, exists_eq_left] at hr
    exact Text.mem_trimNames.mpr ⟨hr.1, c.1, List.mem_map_of_mem h, hr.2⟩
  · intro r
    rw [again.items_eq, built.items_eq, contributed_append]
    apply eraseDups_append_of_subset
    intro x hx
    simp only [mem_contributed, List.mem_singleton, exists_eq_left] at hx ⊢
    obtain ⟨named, visible, own⟩ := hx
    exact ⟨named, visible, c, h, own⟩

/-- What has items is named. -/
theorem trimmed_of_mem_items (built : Built t cs) {r x : String} (h : x ∈ t.items r) :
    Text.Trimmed r ∧ Text.Trimmed x := by
  refine ⟨?_, built.tidy.trimmed r x h⟩
  apply built.trimmed_of_mem_keys
  by_contra absent
  rw [items_of_notMem absent] at h
  exact List.not_mem_nil h

end Built

/-- However a table is built, resources and items are trimmed and distinct, and none is empty. Just
what some contribution has is stored, in the order of first contribution. Items may be added in
parts, and adding them again changes nothing. -/
theorem contributions_are_kept (built : Built t cs) :
    (t.keys.Nodup ∧ ∀ r ∈ t.keys, Text.Trimmed r) ∧
    (∀ r, (t.items r).Nodup ∧ ∀ x ∈ t.items r, Text.Trimmed x) ∧
    (∀ r x, x ∈ t.items r ↔
      r ≠ "" ∧ x ≠ "" ∧ ∃ c ∈ cs, Text.trim c.1 = r ∧ ∃ y ∈ c.2, Text.trim y = x) ∧
    t.keys = (Text.trimNames (cs.map Prod.fst)).eraseDups ∧
    (∀ r, t.items r = (contributed cs r).eraseDups) ∧
    (∀ r xs ys, t.add r (xs ++ ys) = (t.add r xs).add r ys) ∧
    ∀ r xs, (t.add r xs).add r xs = t.add r xs := by
  refine ⟨⟨t.nodup_keys, fun r => built.trimmed_of_mem_keys⟩,
    fun r => ⟨built.nodup_items r, built.tidy.trimmed r⟩, fun r x => built.mem_items_iff,
    built.keys_eq, built.items_eq, t.add_append, fun r xs => ?_⟩
  have member : (r, xs) ∈ cs ++ [(r, xs)] := List.mem_append_right cs List.mem_cons_self
  exact (built.add r xs).add_of_mem (c := (r, xs)) member

/-- A name without a key, a key that comes twice in two spellings, blank items, and calls behind. -/
theorem contributions_are_kept_posts :
    let d : Definition := .list [.scalar " users", .scalar " ", .mapping
      [(.name "posts", .list [.scalar "publish ", .scalar ""]), (.name " posts ", .scalar "pin")]]
    let t := ((ofResources d).add "users " [" ban", "read", "ban"]).addCrud "posts"
    let cs := d.entries.flatMap resourceContributions ++ [("users ", [" ban", "read", "ban"])] ++
      [("posts", defaultActions)]
    Built t cs ∧ t.keys = ["users", "posts"] ∧
      t.items "users" = ["read", "create", "update", "destroy", "ban"] ∧
      t.items "posts" = ["publish", "pin", "read", "create", "update", "destroy"] ∧
      (t.add "posts" ["pin", "fly"]).add "posts" ["pin", "fly"] = t.add "posts" ["pin", "fly"] := by
  intro d t cs
  have built : Built t cs := .crud (.add (.resources d) "users " [" ban", "read", "ban"]) "posts"
  obtain ⟨-, -, -, keys, items, -, again⟩ := contributions_are_kept built
  refine ⟨built, keys.trans ?_, (items "users").trans ?_, (items "posts").trans ?_, again _ _⟩
  · decide
  · decide
  · decide

end ItemTable

end Entitlements
