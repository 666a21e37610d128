import Entitlements.Json.Written
import Entitlements.OrderedMap

set_option autoImplicit false

/-!
From JSON text as written to values. Decoding refuses unpaired surrogates, numbers beyond double
precision and more than 127 levels of arrays and objects. A key that comes again keeps its first
place and takes the last value.
-/

namespace Entitlements.Json

def highSurrogate (u : Nat) : Bool := decide (0xd800 ≤ u) && decide (u < 0xdc00)

def lowSurrogate (u : Nat) : Bool := decide (0xdc00 ≤ u) && decide (u < 0xe000)

def decodePieces? : List Piece → Option (List Char)
  | [] => some []
  | .char c :: rest => (decodePieces? rest).map (c :: ·)
  | .unit u :: .unit v :: rest =>
    if highSurrogate u then
      if lowSurrogate v then
        (decodePieces? rest).map (.ofNat (0x10000 + (u - 0xd800) * 0x400 + (v - 0xdc00)) :: ·)
      else none
    else if lowSurrogate u then none
    else (decodePieces? (.unit v :: rest)).map (.ofNat u :: ·)
  | .unit u :: rest =>
    if highSurrogate u ∨ lowSurrogate u then none
    else (decodePieces? rest).map (.ofNat u :: ·)

def decodeString? (ps : List Piece) : Option String := (decodePieces? ps).map .ofList

/-- Reads on as long as the number stays below `2 ^ 64`; gives back the digits left over. -/
def gather (n : Nat) : List Char → Nat × List Char
  | [] => (n, [])
  | d :: ds =>
    let m := n * 10 + Decimal.digitValue d
    if m < Nat.pow 2 64 then gather m ds else (n, d :: ds)

namespace Numeral

/-- Digits without point and exponent that fit 64 bits, signed ones below zero, are an integer. -/
def integer? (n : Numeral) : Option Int :=
  match n.fraction, n.exponent with
  | none, none =>
    match gather 0 n.whole with
    | (m, []) => if n.negative then if m = 0 ∨ Nat.pow 2 63 < m then none else some (-m) else some m
    | _ => none
  | _, _ => none

/-- The digits that fit 64 bits, scaled by the power of ten that is left. -/
def magnitude? (n : Numeral) : Option Binary64 :=
  let (m, extra) := gather 0 n.whole
  let fraction := n.fraction.getD []
  let (m, unused) := gather m fraction
  let shift : Int := extra.length - (fraction.length - unused.length : Nat)
  let shift := match n.exponent with
    | some (negative, ds) => if negative then shift - Decimal.value ds else shift + Decimal.value ds
    | none => shift
  (Binary64.ofRatio? m 1).bind (·.scale? shift)

def decode? (n : Numeral) : Option Number :=
  match n.integer? with
  | some i => some (.integer i)
  | none => n.magnitude?.map (.double n.negative)

end Numeral

mutual

/-- The value as long as it has at most `levels` levels of arrays and objects. -/
def Written.decode? (levels : Nat) : Written → Option Json
  | .null => some .null
  | .bool b => some (.bool b)
  | .number n => n.decode?.map .number
  | .string ps => (decodeString? ps).map .string
  | .array ws =>
    match levels with
    | 0 => none
    | levels + 1 => (decodeItems? levels ws).map .array
  | .object ms =>
    match levels with
    | 0 => none
    | levels + 1 => (decodeMembers? levels ms).map fun ms => .object (Pairs.merge ms)

def decodeItems? (levels : Nat) : List Written → Option (List Json)
  | [] => some []
  | w :: ws =>
    (w.decode? levels).bind fun v => (decodeItems? levels ws).map (v :: ·)

def decodeMembers? (levels : Nat) : List (List Piece × Written) → Option (List (String × Json))
  | [] => some []
  | (k, w) :: ms =>
    (decodeString? k).bind fun k => (w.decode? levels).bind fun v =>
      (decodeMembers? levels ms).map ((k, v) :: ·)

end

/-- The levels of arrays and objects that one text may have. -/
def maxLevels : Nat := 127

/-- The value of a text that holds nothing else but spaces. -/
def read? (s : String) : Option Json :=
  (Written.read? s.toList).bind fun (w, rest) =>
    if rest.all space then w.decode? maxLevels else none

end Entitlements.Json
