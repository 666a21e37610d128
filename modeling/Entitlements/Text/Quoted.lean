import Entitlements.Text.VisibleTable

set_option autoImplicit false

/-!
Text shown between double quotes: quotes and backslashes are escaped, common controls have short
escapes, and whatever has no visible form of its own is written by its code point.
-/

namespace Entitlements.Text

def visible (c : Char) : Bool :=
  c == ' ' || !(invisibleRanges.member c || extendingRanges.member c)

/-- Lower-case hexadecimal digits without leading zeros. -/
def hex (n : Nat) : List Char := Nat.toDigits 16 n

def quotedChar (c : Char) : List Char :=
  match c with
  | '"' => ['\\', '"']
  | '\\' => ['\\', '\\']
  | '\n' => ['\\', 'n']
  | '\r' => ['\\', 'r']
  | '\t' => ['\\', 't']
  | '\x00' => ['\\', '0']
  | c => if visible c then [c] else ['\\', 'u', '{'] ++ hex c.toNat ++ ['}']

def quoted (s : String) : String := .ofList ('"' :: s.toList.flatMap quotedChar ++ ['"'])

end Entitlements.Text
