import Entitlements.Definition
import Entitlements.OrderedMap
import Entitlements.Text.Blank

set_option autoImplicit false

/-!
Items by resource: the actions of plain resources and the items of special permissions are kept
the same way. Names and items are trimmed, blank ones are left out, and what is there already stays
where it is.
-/

namespace Entitlements

/-- Resources in the order of their first contribution, each with its items in that order. -/
abbrev ItemTable := OrderedMap (List String)

/-- The actions of a resource that is given by its name alone. -/
def defaultActions : List String := ["read", "create", "update", "destroy"]

namespace ItemTable

def addItem (old : List String) (item : String) : List String :=
  let item := Text.trim item
  if item = "" ∨ item ∈ old then old else old ++ [item]

def addItems (old items : List String) : List String := items.foldl addItem old

/-- Merges items into those of a resource; a resource is present even without items. -/
def add (t : ItemTable) (resource : String) (items : List String) : ItemTable :=
  let resource := Text.trim resource
  if resource = "" then t else t.alter resource fun old => addItems (old.getD []) items

def addCrud (t : ItemTable) (resource : String) : ItemTable := t.add resource defaultActions

def items (t : ItemTable) (resource : String) : List String := (t.get? resource).getD []

/-- Names without a key get the default actions; a key has its own. -/
def ofResources (d : Definition) : ItemTable :=
  d.entries.foldl (fun t e =>
    match e.1 with
    | .position _ => e.2.tokens.foldl addCrud t
    | .name resource => t.add resource e.2.tokens) ∅

/-- Special items need a key; others are left out. -/
def ofSpecials (d : Definition) : ItemTable :=
  d.entries.foldl (fun t e =>
    match e.1 with
    | .position _ => t
    | .name resource => t.add resource e.2.tokens) ∅

theorem toList_eq_map_items (t : ItemTable) : t.toList = t.keys.map fun r => (r, t.items r) :=
  t.toList_eq_map_keys t.items fun _ _ h => by simp [items, h]

theorem items_of_mem {t : ItemTable} {e : String × List String} (h : e ∈ t.toList) :
    t.items e.1 = e.2 := by
  rw [items, OrderedMap.get?_eq_some_iff.mpr h, Option.getD_some]

theorem items_of_notMem {t : ItemTable} {resource : String} (h : resource ∉ t.keys) :
    t.items resource = [] := by
  rw [items, OrderedMap.get?_eq_none_iff.mpr h, Option.getD_none]

end ItemTable

end Entitlements
