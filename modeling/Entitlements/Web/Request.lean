import Entitlements.Text.Form

set_option autoImplicit false

/-!
Requests: a method, the raw segments of a path and the fields of a query.
-/

namespace Entitlements.Web

structure Request where
  method : String
  /-- Path segments with their escapes. -/
  path : List (List UInt8)
  query : List (String × String)

def schemeByte (b : UInt8) : Bool :=
  (decide (0x30 ≤ b) && decide (b ≤ 0x39)) || (decide (0x41 ≤ b) && decide (b ≤ 0x5a)) ||
    (decide (0x61 ≤ b) && decide (b ≤ 0x7a)) || b == 0x2b || b == 0x2d || b == 0x2e

/-- A target without scheme and authority; a target that has no path leaves nothing. -/
def dropOrigin (target : List UInt8) : List UInt8 :=
  if target.head? = some 0x2f then target
  else match target.dropWhile schemeByte with
    | 0x3a :: 0x2f :: 0x2f :: rest => rest.dropWhile fun b => b != 0x2f && b != 0x3f && b != 0x23
    | _ => []

/-- Reads a target such as `/a/b?x=y` or `http://host/a/b?x=y`; what follows `#` is no part of
it. -/
def Request.ofTarget (method target : String) : Request :=
  let (target, _) := Text.cutBytes 0x23 (dropOrigin (Text.utf8 target))
  let (path, query) := Text.cutBytes 0x3f target
  { method, path := Text.splitBytes 0x2f (path.drop 1), query := Text.formFields query }

end Entitlements.Web
