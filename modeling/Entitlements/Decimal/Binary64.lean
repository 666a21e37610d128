set_option autoImplicit false

/-!
Double precision magnitudes as `mantissa * 2 ^ exponent`. A ratio is rounded to the nearest one, a
tie to the even mantissa.
-/

namespace Entitlements

structure Binary64 where
  mantissa : Nat
  exponent : Int
  deriving DecidableEq, Repr

namespace Binary64

def zero : Binary64 := ⟨0, 0⟩

/-- The number of binary digits. -/
def bits (n : Nat) : Nat := if n = 0 then 0 else n.log2 + 1

/-- `num / den` to the nearest integer, a tie to the even one. -/
def roundDiv (num den : Nat) : Nat :=
  let q := num / den
  let r := num % den
  if 2 * r < den ∨ (2 * r = den ∧ q % 2 = 0) then q else q + 1

/-- `num / den` divided by `2 ^ e`, as a ratio. -/
def scaled (num den : Nat) (e : Int) : Nat × Nat :=
  if 0 ≤ e then (num, den * Nat.pow 2 e.toNat) else (num * Nat.pow 2 (-e).toNat, den)

/-- The exponent at which a positive ratio has a mantissa of 53 bits, or the least exponent. -/
def exponentOf (num den : Nat) : Int :=
  let e := max ((bits num : Int) - bits den - 53) (-1074)
  let (n, d) := scaled num den e
  if n / d < Nat.pow 2 53 then e else e + 1

/-- The nearest magnitude; none when the ratio is too large. -/
def ofRatio? (num den : Nat) : Option Binary64 :=
  if num = 0 then some zero
  else
    let e := exponentOf num den
    let (n, d) := scaled num den e
    let m := roundDiv n d
    let (m, e) := if m = Nat.pow 2 53 then (Nat.pow 2 52, e + 1) else (m, e)
    if 971 < e then none else some (if m = 0 then zero else ⟨m, e⟩)

/-- The magnitude as a ratio. -/
def ratio (x : Binary64) : Nat × Nat :=
  if 0 ≤ x.exponent then (x.mantissa * Nat.pow 2 x.exponent.toNat, 1)
  else (x.mantissa, Nat.pow 2 (-x.exponent).toNat)

def mul? (x y : Binary64) : Option Binary64 :=
  ofRatio? (x.ratio.1 * y.ratio.1) (x.ratio.2 * y.ratio.2)

def div? (x y : Binary64) : Option Binary64 :=
  ofRatio? (x.ratio.1 * y.ratio.2) (x.ratio.2 * y.ratio.1)

/-- Scales by a power of ten, down in steps of at most `10 ^ 308`; none when it overflows. -/
def scale? (x : Binary64) : Int → Option Binary64
  | .ofNat n =>
    if n ≤ 308 then (ofRatio? (Nat.pow 10 n) 1).bind x.mul?
    else if x = zero then some x
    else none
  | .negSucc n => go x (n + 1) (n + 1)
where
  go (x : Binary64) (n : Nat) : Nat → Option Binary64
    | 0 => some x
    | fuel + 1 =>
      if n ≤ 308 then (ofRatio? (Nat.pow 10 n) 1).bind x.div?
      else if x = zero then some x
      else (ofRatio? (Nat.pow 10 308) 1).bind x.div? |>.bind fun y => go y (n - 308) fuel

end Binary64

end Entitlements
