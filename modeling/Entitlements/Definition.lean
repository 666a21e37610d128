import Entitlements.Decimal.Digits
import Entitlements.Json.Basic

set_option autoImplicit false

/-!
Authored definitions: loosely nested JSON in which a string, a list or an object may stand where
names are expected. One view serves all three: the entries of a definition, each a key with a
value, and the strings at its leaves.
-/

namespace Entitlements

inductive Definition.Key where
  | position (index : Nat)
  | name (s : String)
  deriving DecidableEq, Repr

inductive Definition where
  | scalar (s : String)
  | list (items : List Definition)
  | mapping (entries : List (Definition.Key × Definition))
  deriving Repr, Inhabited

namespace Definition

/-- The index that a key of ASCII digits spells, when it fits 64 bits. -/
def Key.index? (s : String) : Option Nat := Decimal.below? (Nat.pow 2 64) s.toList

def Key.ofString (s : String) : Key :=
  match index? s with
  | some n => .position n
  | none => .name s

/-- The key as a name; an index is spelled without leading zeros. -/
def Key.toName : Key → String
  | .position n => .ofList (Nat.toDigits 10 n)
  | .name s => s

/-- One step from a JSON value into a part of it. -/
inductive Step where
  | member (key : String)
  | item (index : Nat)
  deriving DecidableEq, Repr

/-- A value that is neither a string nor a list nor an object, and the way to it. -/
structure Refusal where
  path : List Step
  found : Json.Kind
  deriving DecidableEq, Repr

def Step.text : Step → String
  | .member key => "." ++ key
  | .item i => "[" ++ String.ofList (Nat.toDigits 10 i) ++ "]"

def Refusal.message (r : Refusal) : String :=
  "$" ++ String.join (r.path.map Step.text) ++ ": expected a string, list or object, found " ++
    r.found.name

/-- A refusal inside a part is one of the whole, a step further away. -/
def Refusal.behind (s : Step) (r : Refusal) : Refusal := { r with path := s :: r.path }

mutual

def ofJson : Json → Except Refusal Definition
  | .string s => .ok (.scalar s)
  | .array items => (ofItems 0 items).map .list
  | .object members => (ofMembers members).map .mapping
  | .null => .error ⟨[], .null⟩
  | .bool _ => .error ⟨[], .boolean⟩
  | .number _ => .error ⟨[], .number⟩

def ofItems (i : Nat) : List Json → Except Refusal (List Definition)
  | [] => .ok []
  | v :: vs => do
    let d ← (ofJson v).mapError (.behind (.item i))
    return d :: (← ofItems (i + 1) vs)

def ofMembers : List (String × Json) → Except Refusal (List (Key × Definition))
  | [] => .ok []
  | (k, v) :: ms => do
    let d ← (ofJson v).mapError (.behind (.member k))
    return (Key.ofString k, d) :: (← ofMembers ms)

end

/-- A list's items under consecutive positions, the objects among them opened in place. -/
def itemEntries (i : Nat) : List Definition → List (Key × Definition)
  | [] => []
  | .mapping es :: ds => es ++ itemEntries i ds
  | d :: ds => (.position i, d) :: itemEntries (i + 1) ds

/-- The entries of the rear part come behind those of the front part. -/
theorem itemEntries_append (i : Nat) (front : List Definition) :
    ∃ j, ∀ back, itemEntries i (front ++ back) = itemEntries i front ++ itemEntries j back := by
  fun_induction itemEntries i front with
  | case1 i => exact ⟨i, fun back => rfl⟩
  | case2 i es ds ih =>
    obtain ⟨j, split⟩ := ih
    exact ⟨j, fun back => by rw [List.cons_append, itemEntries, split, List.append_assoc]⟩
  | case3 i d ds plain ih =>
    obtain ⟨j, split⟩ := ih
    refine ⟨j, fun back => ?_⟩
    rw [List.cons_append, itemEntries, split, List.cons_append]
    exact plain

def entries : Definition → List (Key × Definition)
  | .scalar s => [(.position 0, .scalar s)]
  | .list items => itemEntries 0 items
  | .mapping es => es

mutual

/-- The strings at the leaves, in authoring order. -/
def tokens : Definition → List String
  | .scalar s => [s]
  | .list items => tokensOfItems items
  | .mapping es => tokensOfEntries es

def tokensOfItems : List Definition → List String
  | [] => []
  | d :: ds => tokens d ++ tokensOfItems ds

def tokensOfEntries : List (Key × Definition) → List String
  | [] => []
  | (_, d) :: es => tokens d ++ tokensOfEntries es

end

def isStar : Definition → Bool
  | .scalar s => s == "*"
  | _ => false

/-- A star, or a list or object that starts with one. -/
def isWildcard : Definition → Bool
  | .scalar s => s == "*"
  | .list items => items.head?.any isStar
  | .mapping es => es.head?.any fun e => isStar e.2

end Definition

end Entitlements
