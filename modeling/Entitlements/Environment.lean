import Entitlements.OrderedMap
import Entitlements.Text.Blank

set_option autoImplicit false

/-!
Environment variables by name.
-/

namespace Entitlements

abbrev Environment := OrderedMap String

namespace Environment

/-- The value of a variable, empty when it is unset. -/
def value (e : Environment) (name : String) : String := (OrderedMap.get? e name).getD ""

/-- The value of a variable unless it is blank. -/
def nonBlank? (e : Environment) (name : String) : Option String :=
  (OrderedMap.get? e name).filter (!Text.isBlank ·)

/-- What stands behind a name and an equals sign in the line `NAME=value` of a variable; the name
that is asked for may reach into the value. -/
def expansion (e : Environment) (name : List Char) : List Char :=
  match Text.cutAt '=' name with
  | none => (e.value (.ofList name)).toList
  | some (name, rest) =>
    let value := (e.value (.ofList name)).toList
    if rest ++ ['='] <+: value then value.drop (rest.length + 1) else []

end Environment

end Entitlements
