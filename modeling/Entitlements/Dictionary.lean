import Entitlements.Failure
import Entitlements.OrderedMap

set_option autoImplicit false

/-!
Labels by locale. A document of nested objects is flattened into lines `section.key`; it is
taken whole or, when one of its values is neither an object nor a string, not at all.
-/

namespace Entitlements

structure Dictionary where
  tables : OrderedMap (OrderedMap String)
  deriving Inhabited

namespace Dictionary

instance : EmptyCollection Dictionary := ⟨⟨∅⟩⟩

def get? (d : Dictionary) (locale key : String) : Option String :=
  (d.tables.get? locale).bind (·.get? key)

/-- The locales in increasing order. -/
def locales (d : Dictionary) : List String :=
  d.tables.keys.mergeSort fun a b => decide (a ≤ b)

/-- Later lines replace earlier ones; the locale is present even without lines. -/
def addLines (d : Dictionary) (locale : String) (lines : List (String × String)) : Dictionary :=
  ⟨d.tables.alter locale fun table => (table.getD ∅).insertAll lines⟩

@[simp] theorem get?_empty (locale key : String) : (∅ : Dictionary).get? locale key = none := rfl

theorem get?_addLines (d : Dictionary) (locale l k : String) (lines : List (String × String)) :
    (d.addLines locale lines).get? l k =
      if l = locale then (lines.reverse.lookup k).or (d.get? locale k) else d.get? l k := by
  rw [get?, addLines, OrderedMap.get?_alter]
  split
  · rw [Option.bind_some, OrderedMap.get?_insertAll, get?]
    cases d.tables.get? locale <;> rfl
  · rfl

/-- The key of a member within a section; the document itself has no name. -/
def child (path key : String) : String := if path = "" then key else path ++ "." ++ key

mutual

/-- The lines of a document, or the key of the first value that cannot be a line. -/
def lines (path : String) : Json → Except String (List (String × String))
  | .string label => .ok [(path, label)]
  | .object members => linesOfMembers path members
  | _ => .error path

def linesOfMembers (path : String) :
    List (String × Json) → Except String (List (String × String))
  | [] => .ok []
  | (k, v) :: ms => do
    let first ← lines (child path k) v
    return first ++ (← linesOfMembers path ms)

end

/-- A step on a dictionary; what it did so far stays when it fails. -/
abbrev Update (ε : Type) := EStateM ε Dictionary

/-- All lines of a document are there before the first of them is added. -/
def addJson (locale : String) (document : Json) : Update String Unit := do
  match lines "" document with
  | .ok ls => modify (·.addLines locale ls)
  | .error key => throw key

/-- The failure for a value that cannot be a line. -/
def refusal (key : String) : Failure :=
  ⟨.configuration, "translation `" ++ key ++ "` must be a string"⟩

end Dictionary

end Entitlements
