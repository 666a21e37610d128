import Entitlements.Text.Utf8

set_option autoImplicit false

/-!
Percent escapes: `%` and two hexadecimal digits stand for a byte; any other `%` stands for itself.
-/

namespace Entitlements.Text

def hexByte? (b : UInt8) : Option UInt8 :=
  if 0x30 ≤ b ∧ b ≤ 0x39 then some (b - 0x30)
  else if 0x41 ≤ b ∧ b ≤ 0x46 then some (b - 0x37)
  else if 0x61 ≤ b ∧ b ≤ 0x66 then some (b - 0x57)
  else none

def percentByte? (a b : UInt8) : Option UInt8 := do
  return (← hexByte? a) * 16 + (← hexByte? b)

def percentDecode : List UInt8 → List UInt8
  | [] => []
  | 0x25 :: a :: b :: rest =>
    match percentByte? a b with
    | some byte => byte :: percentDecode rest
    | none => 0x25 :: percentDecode (a :: b :: rest)
  | b :: rest => b :: percentDecode rest

def percentDigit (n : UInt8) : UInt8 := if n < 10 then 0x30 + n else 0x37 + n

def percentEscape (b : UInt8) : List UInt8 := [0x25, percentDigit (b / 16), percentDigit (b % 16)]

/-- Letters, digits and `-._~` stand for themselves in every part of an address. -/
def unreserved (b : UInt8) : Bool :=
  (decide (0x30 ≤ b) && decide (b ≤ 0x39)) || (decide (0x41 ≤ b) && decide (b ≤ 0x5a)) ||
    (decide (0x61 ≤ b) && decide (b ≤ 0x7a)) || [0x2d, 0x2e, 0x5f, 0x7e].contains b

/-- Escapes where they may be needed. -/
def percentEncodeReserved (bs : List UInt8) : List UInt8 :=
  bs.flatMap fun b => if unreserved b then [b] else percentEscape b

end Entitlements.Text
