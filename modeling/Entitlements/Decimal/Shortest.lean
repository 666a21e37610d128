import Entitlements.Decimal.Binary64

set_option autoImplicit false

/-!
The decimal text of a magnitude. Its digits are the fewest that round to the magnitude, and of those
the nearest; a tie goes to the even one. The text is positional for exponents of a moderate size and
has a power of ten otherwise.
-/

namespace Entitlements

/-- The number `0.d₁d₂… * 10 ^ point`; zero has no digits. -/
structure Decimal where
  digits : List Char
  point : Int
  deriving DecidableEq, Repr

namespace Decimal

/-- The decimal `n * 10 ^ e`. -/
def ofScaled (n : Nat) (e : Int) : Decimal :=
  let ds := Nat.toDigits 10 n
  ⟨(ds.reverse.dropWhile (· = '0')).reverse, e + ds.length⟩

/-- One digit, the others behind a point, and the exponent with its sign. -/
def scientific (digits : List Char) (e : Int) : List Char :=
  digits.take 1 ++ (if digits.length = 1 then [] else '.' :: digits.drop 1) ++
    'e' :: (if 0 ≤ e then '+' else '-') :: Nat.toDigits 10 e.natAbs

/-- A text always has a point or an exponent. -/
def text (d : Decimal) : List Char :=
  if d.digits = [] then ['0', '.', '0']
  else if 0 < d.point ∧ d.point ≤ 16 then
    let places := d.point.toNat
    if d.digits.length ≤ places then
      d.digits ++ List.replicate (places - d.digits.length) '0' ++ ['.', '0']
    else d.digits.take places ++ '.' :: d.digits.drop places
  else if -5 < d.point ∧ d.point ≤ 0 then
    ['0', '.'] ++ List.replicate (-d.point).toNat '0' ++ d.digits
  else scientific d.digits (d.point - 1)

end Decimal

namespace Binary64

/-- The decimal exponent `k` with `10 ^ k ≤ num / den < 10 ^ (k + 1)`, for a positive ratio. -/
def decimalExponent (num den : Nat) : Int :=
  if den ≤ num then (((Nat.toDigits 10 (num / den)).length - 1 : Nat) : Int)
  else
    let k := (Nat.toDigits 10 (den / num)).length
    if num * Nat.pow 10 (k - 1) < den then -(k : Int) else -((k - 1 : Nat) : Int)

/-- The multiples of `10 ^ e` on both sides of a ratio as multipliers, the nearer one first. -/
def neighbours (num den : Nat) (e : Int) : List Nat :=
  let n := num * Nat.pow 10 (-e).toNat
  let d := den * Nat.pow 10 e.toNat
  if roundDiv n d = n / d then [n / d, n / d + 1] else [n / d + 1, n / d]

/-- Whether `n * 10 ^ e` rounds to the magnitude. -/
def isRoundedFrom (x : Binary64) (n : Nat) (e : Int) : Bool :=
  ofRatio? (n * Nat.pow 10 e.toNat) (Nat.pow 10 (-e).toNat) == some x

/-- The nearest decimal of `count` digits that rounds to a magnitude other than zero. -/
def decimal? (x : Binary64) (count : Nat) : Option Decimal :=
  let (num, den) := x.ratio
  let e := decimalExponent num den - ((count : Int) - 1)
  ((neighbours num den e).find? (x.isRoundedFrom · e)).map (Decimal.ofScaled · e)

/-- Seventeen digits are always enough. -/
def shortest (x : Binary64) : Decimal :=
  if x.mantissa = 0 then ⟨[], 0⟩
  else ((List.range 17).findSome? fun k => x.decimal? (k + 1)).getD ⟨[], 0⟩

def text (x : Binary64) : String := .ofList x.shortest.text

end Binary64

end Entitlements
