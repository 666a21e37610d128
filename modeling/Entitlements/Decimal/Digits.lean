set_option autoImplicit false

/-!
Runs of ASCII digits and the numbers they spell.
-/

namespace Entitlements.Decimal

def digit (c : Char) : Bool := decide ('0' ≤ c) && decide (c ≤ '9')

def digitValue (c : Char) : Nat := c.toNat - 0x30

def value (ds : List Char) : Nat := ds.foldl (fun n d => n * 10 + digitValue d) 0

/-- The number that a text of digits and nothing else spells, when it stays below `bound`. -/
def below? (bound : Nat) (ds : List Char) : Option Nat :=
  if ds ≠ [] ∧ ds.all digit ∧ value ds < bound then some (value ds) else none

end Entitlements.Decimal
