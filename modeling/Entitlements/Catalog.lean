import Entitlements.ItemTable
import Entitlements.NameSet

set_option autoImplicit false

/-!
The catalog of permissions: the names of each resource, actions before special items, and all names
once in the order of the resources. A resource without names is absent.
-/

namespace Entitlements

def permissionName (action resource : String) : String := action ++ " " ++ resource

/-- An item with a space is a full name already. -/
def compose (item resource : String) : String :=
  if ' ' ∈ item.toList then item else permissionName item resource

/-- The names of each resource, all names once in order, and the index that lookups go by. -/
structure Catalog where
  groups : OrderedMap (List String)
  names : List String
  index : List String
  deriving Inhabited

namespace Catalog

instance : EmptyCollection Catalog := ⟨⟨∅, [], []⟩⟩

/-- A name that is not in the index yet goes into it and to the end of the names. -/
def record (c : Catalog) (name : String) : Catalog :=
  if name ∈ c.index then c
  else { c with names := c.names ++ [name], index := name :: c.index }

/-- Adds a group unless it is empty. -/
def extend (c : Catalog) (resource : String) (names : List String) : Catalog :=
  let group := (NameSet.ofList names).toList
  if group = [] then c
  else
    let c := group.foldl record c
    { c with groups := c.groups.insert resource group }

def contains (c : Catalog) (name : String) : Bool := c.index.contains name

def size (c : Catalog) : Nat := c.names.length

/-- A resource of the first table gets its actions and its special items. -/
def addResource (specials : ItemTable) (c : Catalog) (e : String × List String) : Catalog :=
  c.extend e.1 (e.2.map (permissionName · e.1) ++ (specials.items e.1).map (compose · e.1))

/-- Special items of a resource that has its group already are in there. -/
def addSpecials (c : Catalog) (e : String × List String) : Catalog :=
  if c.groups.contains e.1 then c else c.extend e.1 (e.2.map (compose · e.1))

/-- Resources in their order, then those that have special items only. -/
def compile (resources specials : ItemTable) : Catalog :=
  specials.toList.foldl addSpecials (resources.toList.foldl (addResource specials) ∅)

def toJson (c : Catalog) : Json :=
  .object (c.groups.toList.map fun g => (g.1, .ofStrings g.2))

end Catalog

end Entitlements
