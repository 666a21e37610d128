set_option autoImplicit false

/-!
Sets of code points written as sorted lists of closed ranges.
-/

namespace Entitlements.Text

/-- Closed ranges of code points, in increasing order. -/
abbrev Ranges := List (Nat × Nat)

def Ranges.covers : Ranges → Nat → Bool
  | [], _ => false
  | (first, last) :: rest, n => decide (first ≤ n) && (decide (n ≤ last) || covers rest n)

def Ranges.member (r : Ranges) (c : Char) : Bool := r.covers c.toNat

end Entitlements.Text
