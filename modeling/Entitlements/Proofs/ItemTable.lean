import Entitlements.ItemTable
import Entitlements.Proofs.Text.Trim

set_option autoImplicit false

/-!
Contributions to a table of items. Each only puts items behind those that a resource has, and what
it puts there is trimmed.
-/

namespace Entitlements.ItemTable

theorem addItem_eq (old : List String) (item : String) :
    addItem old item =
      if Text.trim item = "" ∨ Text.trim item ∈ old then old else old ++ [Text.trim item] := rfl

theorem addItems_cons (old : List String) (item : String) (items : List String) :
    addItems old (item :: items) = addItems (addItem old item) items := by
  rw [addItems, List.foldl_cons, ← addItems]

theorem prefix_addItem (old : List String) (item : String) : old <+: addItem old item := by
  rw [addItem_eq]
  split
  · exact List.prefix_rfl
  · exact List.prefix_append old _

theorem prefix_addItems (old items : List String) : old <+: addItems old items := by
  induction items generalizing old with
  | nil => exact List.prefix_rfl
  | cons item items ih =>
    rw [addItems_cons]
    exact (prefix_addItem old item).trans (ih _)

theorem trimmed_of_mem_addItems {old items : List String} (h : ∀ x ∈ old, Text.Trimmed x) :
    ∀ x ∈ addItems old items, Text.Trimmed x := by
  induction items generalizing old with
  | nil => exact h
  | cons item items ih =>
    rw [addItems_cons]
    apply ih
    intro x hx
    rw [addItem_eq] at hx
    split at hx
    · exact h x hx
    · rename_i new
      rcases List.mem_append.mp hx with hx | hx
      · exact h x hx
      · rw [List.mem_singleton.mp hx]
        exact Text.trimmed_trim (not_or.mp new).1

variable {t : ItemTable}

/-- The table after a row of contributions, each a resource with items. -/
def addAll (t : ItemTable) (calls : List (String × List String)) : ItemTable :=
  calls.foldl (fun t e => t.add e.1 e.2) t

theorem addAll_cons (t : ItemTable) (e : String × List String)
    (calls : List (String × List String)) :
    t.addAll (e :: calls) = (t.add e.1 e.2).addAll calls := by
  rw [addAll, List.foldl_cons, ← addAll]

theorem items_add (t : ItemTable) (resource r : String) (items : List String) :
    (t.add resource items).items r =
      if r = Text.trim resource ∧ r ≠ "" then addItems (t.items r) items else t.items r := by
  unfold add ItemTable.items
  simp only
  split
  · rename_i blank
    rw [if_neg fun own => own.2 (own.1.trans blank)]
  · rename_i visible
    rw [OrderedMap.get?_alter]
    by_cases own : r = Text.trim resource
    · subst own
      rw [if_pos rfl, if_pos ⟨rfl, visible⟩, Option.getD_some]
    · rw [if_neg own, if_neg fun both => own both.1]

/-- Nothing that a resource has is taken away or moved. -/
theorem prefix_items_addAll (t : ItemTable) (calls : List (String × List String)) (r : String) :
    t.items r <+: (t.addAll calls).items r := by
  induction calls generalizing t with
  | nil => exact List.prefix_rfl
  | cons e calls ih =>
    have step : t.items r <+: (t.add e.1 e.2).items r := by
      rw [items_add]
      split
      · exact prefix_addItems _ _
      · exact List.prefix_rfl
    rw [addAll_cons]
    exact step.trans (ih _)

/-- All items are trimmed, and none is empty. -/
structure Tidy (t : ItemTable) : Prop where
  trimmed : ∀ r, ∀ x ∈ t.items r, Text.Trimmed x

theorem tidy_empty : Tidy ∅ := ⟨fun _ _ h => absurd h List.not_mem_nil⟩

theorem Tidy.add (h : t.Tidy) (resource : String) (items : List String) :
    (t.add resource items).Tidy := by
  constructor
  intro r
  rw [items_add]
  split
  · exact trimmed_of_mem_addItems (h.trimmed r)
  · exact h.trimmed r

theorem Tidy.foldl {α : Type} {f : ItemTable → α → ItemTable}
    (step : ∀ (t : ItemTable) (a : α), t.Tidy → (f t a).Tidy) (h : t.Tidy) (as : List α) :
    (as.foldl f t).Tidy := by
  induction as generalizing t with
  | nil => exact h
  | cons a as ih => exact ih (step t a h)

theorem Tidy.addAll (h : t.Tidy) (calls : List (String × List String)) :
    (t.addAll calls).Tidy := by
  induction calls generalizing t with
  | nil => exact h
  | cons e calls ih =>
    rw [addAll_cons]
    exact ih (h.add e.1 e.2)

theorem Tidy.addCrud (h : t.Tidy) (resource : String) : (t.addCrud resource).Tidy :=
  h.add resource defaultActions

theorem tidy_ofResources (d : Definition) : (ofResources d).Tidy := by
  unfold ofResources
  apply Tidy.foldl _ tidy_empty
  rintro t ⟨k, v⟩ h
  cases k with
  | position n => exact Tidy.foldl (fun _ r h => h.addCrud r) h v.tokens
  | name r => exact h.add r v.tokens

theorem tidy_ofSpecials (d : Definition) : (ofSpecials d).Tidy := by
  unfold ofSpecials
  apply Tidy.foldl _ tidy_empty
  rintro t ⟨k, v⟩ h
  cases k with
  | position n => exact h
  | name r => exact h.add r v.tokens

end Entitlements.ItemTable
