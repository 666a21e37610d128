import Entitlements.Decimal.Binary64

set_option autoImplicit false

/-!
JSON values. The members of an object are kept in order.
-/

namespace Entitlements

inductive Json.Number where
  | integer (value : Int)
  | double (negative : Bool) (magnitude : Binary64)
  deriving DecidableEq, Repr

inductive Json where
  | null
  | bool (b : Bool)
  | number (n : Json.Number)
  | string (s : String)
  | array (items : List Json)
  | object (members : List (String × Json))
  deriving Repr, Inhabited

namespace Json

inductive Kind where
  | null | boolean | number | string | list | object
  deriving DecidableEq, Repr

def kind : Json → Kind
  | .null => .null
  | .bool _ => .boolean
  | .number _ => .number
  | .string _ => .string
  | .array _ => .list
  | .object _ => .object

def Kind.name : Kind → String
  | .null => "null"
  | .boolean => "boolean"
  | .number => "number"
  | .string => "string"
  | .list => "list"
  | .object => "object"

def ofNat (n : Nat) : Json := .number (.integer n)

def ofStrings (xs : List String) : Json := .array (xs.map .string)

/-- A text, or null when there is none. -/
def ofString? : Option String → Json
  | some s => .string s
  | none => .null

end Json

end Entitlements
