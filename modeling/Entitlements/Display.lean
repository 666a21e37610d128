import Entitlements.Json.Basic
import Entitlements.OrderedMap
import Entitlements.Text.Blank
import Entitlements.Text.Case

set_option autoImplicit false

/-!
Permissions as a screen shows them: flat by name, or in groups by the resource that a name tells.
-/

namespace Entitlements.Display

structure Item where
  id : Option Int
  name : String
  deriving DecidableEq, Repr

/-- Where names without a resource go. -/
def otherGroup : String := "other"

/-- What stands before the first dot, else behind the first space. -/
def groupKey (name : String) : String :=
  match Text.cutAt '.' name.toList with
  | some (before, _) => .ofList before
  | none =>
    match Text.cutAt ' ' name.toList with
    | some (_, after) => .ofList after
    | none => otherGroup

def capitalized : List Char → List Char
  | [] => []
  | c :: cs => Text.upperChar c ++ cs.flatMap Text.lowerChar

/-- Words of a key with a capital each; underscores and hyphens count as blanks. -/
def title (key : String) : String :=
  let spaced := key.toList.map fun c => if c = '_' ∨ c = '-' then ' ' else c
  .ofList (Text.unwords ((Text.tokens Text.blank spaced).map capitalized))

structure Flat where
  id : Option Int
  name : String
  label : String
  searchLabel : String
  deriving DecidableEq, Repr

structure Entry extends Flat where
  checked : Bool
  deriving DecidableEq, Repr

structure Group where
  key : String
  title : String
  items : List Entry
  deriving DecidableEq, Repr

/-- A name without a label stands for itself. -/
def labelled (labels : Option (OrderedMap String)) (i : Item) : Flat :=
  let label := (labels.bind (·.get? i.name)).getD i.name
  { id := i.id, name := i.name, label, searchLabel := Text.lower label }

/-- Sorted by name; equal names keep their order. -/
def byName (items : List Item) : List Item :=
  items.mergeSort fun a b => decide (a.name ≤ b.name)

def flat (labels : Option (OrderedMap String)) (items : List Item) : List Flat :=
  (byName items).map (labelled labels)

def checked (selected : List Int) (i : Item) : Bool := i.id.any selected.contains

/-- Items by key, with the keys in increasing order. -/
abbrev Buckets := List (String × List Item)

/-- Puts an item behind the others of its key. -/
def Buckets.push (key : String) (i : Item) : Buckets → Buckets
  | [] => [(key, [i])]
  | (k, items) :: bs =>
    if key = k then (k, items ++ [i]) :: bs
    else if key < k then (key, [i]) :: (k, items) :: bs
    else (k, items) :: push key i bs

def buckets (items : List Item) : Buckets :=
  items.foldl (fun bs i => bs.push (groupKey i.name) i) []

def bucketGroup (labels : Option (OrderedMap String)) (selected : List Int)
    (bucket : String × List Item) : Group :=
  { key := bucket.1
    title := title bucket.1
    items := (byName bucket.2).map fun i =>
      { labelled labels i with checked := checked selected i } }

/-- One group for each key, in increasing order. -/
def groups (labels : Option (OrderedMap String)) (selected : List Int) (items : List Item) :
    List Group :=
  (buckets items).map (bucketGroup labels selected)

def idJson : Option Int → Json
  | some id => .number (.integer id)
  | none => .null

def Flat.members (f : Flat) : List (String × Json) :=
  [("id", idJson f.id), ("name", .string f.name), ("label", .string f.label),
   ("search_label", .string f.searchLabel)]

def Flat.toJson (f : Flat) : Json := .object f.members

def Entry.toJson (e : Entry) : Json := .object (e.toFlat.members ++ [("checked", .bool e.checked)])

def Group.toJson (g : Group) : Json :=
  .object [("key", .string g.key), ("title", .string g.title),
    ("items", .array (g.items.map Entry.toJson))]

end Entitlements.Display
