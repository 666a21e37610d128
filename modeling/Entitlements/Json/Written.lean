import Entitlements.Decimal.Digits
import Entitlements.Json.Basic

set_option autoImplicit false

/-!
JSON text as written: strings keep their escapes and numbers their digits, and nothing is decoded.
Reading goes token by token over a stack of unfinished arrays and objects and stops behind the
first complete value.
-/

namespace Entitlements.Json
open Decimal (digit digitValue)

/-- A character of a string, or the 16 bit unit of a `\u` escape. -/
inductive Piece where
  | char (c : Char)
  | unit (value : Nat)
  deriving DecidableEq, Repr

/-- The digits of a number by part; the exponent comes with its sign. -/
structure Numeral where
  negative : Bool
  whole : List Char
  fraction : Option (List Char)
  exponent : Option (Bool × List Char)
  deriving DecidableEq, Repr

inductive Written where
  | null
  | bool (b : Bool)
  | number (n : Numeral)
  | string (s : List Piece)
  | array (items : List Written)
  | object (members : List (List Piece × Written))
  deriving Repr, Inhabited

def space (c : Char) : Bool := c == ' ' || c == '\t' || c == '\n' || c == '\r'

def hexValue? (c : Char) : Option Nat :=
  if digit c then some (digitValue c)
  else if 'a' ≤ c ∧ c ≤ 'f' then some (c.toNat - 0x57)
  else if 'A' ≤ c ∧ c ≤ 'F' then some (c.toNat - 0x37)
  else none

def unescape? : Char → Option Char
  | '"' => some '"'
  | '\\' => some '\\'
  | '/' => some '/'
  | 'b' => some '\x08'
  | 'f' => some '\x0c'
  | 'n' => some '\n'
  | 'r' => some '\r'
  | 't' => some '\t'
  | _ => none

def unit? (a b c d : Char) : Option Nat := do
  return (((← hexValue? a) * 16 + (← hexValue? b)) * 16 + (← hexValue? c)) * 16 + (← hexValue? d)

/-- The pieces of a string behind its opening quote, and the text behind its closing one. -/
def readPieces? : List Char → Option (List Piece × List Char)
  | '"' :: rest => some ([], rest)
  | '\\' :: 'u' :: a :: b :: c :: d :: rest =>
    (unit? a b c d).bind fun u => (readPieces? rest).map fun (ps, r) => (.unit u :: ps, r)
  | '\\' :: c :: rest =>
    (unescape? c).bind fun e => (readPieces? rest).map fun (ps, r) => (.char e :: ps, r)
  | c :: rest =>
    if c.toNat < 0x20 ∨ c = '\\' then none
    else (readPieces? rest).map fun (ps, r) => (.char c :: ps, r)
  | [] => none

theorem length_of_readPieces? {cs rest : List Char} {ps : List Piece}
    (h : readPieces? cs = some (ps, rest)) : rest.length < cs.length := by
  fun_induction readPieces? cs generalizing ps rest with
  | case1 r => simp_all
  | case2 a b c d r ih | case3 c r _ ih | case5 c r _ _ _ ih =>
    simp only [Option.bind_eq_some_iff, Option.map_eq_some_iff, Prod.exists, Prod.mk.injEq] at h
    grind
  | _ => contradiction

/-- Digits after a mark that requires at least one. -/
def readDigits? (cs : List Char) : Option (List Char × List Char) :=
  match cs.takeWhile digit with
  | [] => none
  | ds => some (ds, cs.dropWhile digit)

theorem length_of_readDigits? {cs ds rest : List Char} (h : readDigits? cs = some (ds, rest)) :
    rest.length < cs.length := by
  have hl := congrArg List.length (List.takeWhile_append_dropWhile (p := digit) (l := cs))
  rw [List.length_append] at hl
  unfold readDigits? at h
  split at h
  · contradiction
  · next hne =>
    obtain ⟨rfl, rfl⟩ := Prod.mk.inj (Option.some.inj h)
    have := List.length_pos_iff.mpr hne
    omega

def readSign (cs : List Char) : Bool × List Char :=
  match cs with
  | '-' :: rest => (true, rest)
  | '+' :: rest => (false, rest)
  | _ => (false, cs)

def readFraction? (cs : List Char) : Option (Option (List Char) × List Char) :=
  match cs with
  | '.' :: rest => (readDigits? rest).map fun (ds, r) => (some ds, r)
  | _ => some (none, cs)

def readExponent? (cs : List Char) : Option (Option (Bool × List Char) × List Char) :=
  match cs with
  | c :: rest =>
    if c = 'e' ∨ c = 'E' then
      let (negative, rest) := readSign rest
      (readDigits? rest).map fun (ds, r) => (some (negative, ds), r)
    else some (none, cs)
  | [] => some (none, cs)

/-- A zero stands alone before the point. -/
def readUnsigned? (negative : Bool) (cs : List Char) : Option (Numeral × List Char) :=
  (readDigits? cs).bind fun (whole, cs) =>
    if whole.head? = some '0' ∧ 1 < whole.length then none
    else (readFraction? cs).bind fun (fraction, cs) =>
      (readExponent? cs).map fun (exponent, cs) => ({ negative, whole, fraction, exponent }, cs)

def readNumeral? (cs : List Char) : Option (Numeral × List Char) :=
  match cs with
  | '-' :: rest => readUnsigned? true rest
  | _ => readUnsigned? false cs

theorem length_readSign (cs : List Char) : (readSign cs).2.length ≤ cs.length := by
  fun_cases readSign cs <;> simp

theorem length_of_readFraction? {cs rest : List Char} {f : Option (List Char)}
    (h : readFraction? cs = some (f, rest)) : rest.length ≤ cs.length := by
  unfold readFraction? at h
  split at h
  · simp only [Option.map_eq_some_iff, Prod.exists, Prod.mk.injEq] at h
    obtain ⟨ds, r, h', -, rfl⟩ := h
    have := length_of_readDigits? h'
    simp only [List.length_cons]
    omega
  · simp_all

theorem length_of_readExponent? {cs rest : List Char} {e : Option (Bool × List Char)}
    (h : readExponent? cs = some (e, rest)) : rest.length ≤ cs.length := by
  unfold readExponent? at h
  split at h
  · next c r =>
    split at h
    · simp only [Option.map_eq_some_iff, Prod.exists, Prod.mk.injEq] at h
      obtain ⟨ds, r', h', -, rfl⟩ := h
      have := length_of_readDigits? h'
      have := length_readSign r
      simp only [List.length_cons]
      omega
    · simp_all
  · simp_all

theorem length_of_readUnsigned? {negative : Bool} {cs rest : List Char} {n : Numeral}
    (h : readUnsigned? negative cs = some (n, rest)) : rest.length < cs.length := by
  simp only [readUnsigned?, Option.bind_eq_some_iff, Prod.exists] at h
  obtain ⟨w, r₁, h₁, h⟩ := h
  split at h
  · contradiction
  simp only [Option.bind_eq_some_iff, Option.map_eq_some_iff, Prod.exists, Prod.mk.injEq] at h
  obtain ⟨f, r₂, h₂, e, r₃, h₃, -, rfl⟩ := h
  have := length_of_readDigits? h₁
  have := length_of_readFraction? h₂
  have := length_of_readExponent? h₃
  omega

theorem length_of_readNumeral? {cs rest : List Char} {n : Numeral}
    (h : readNumeral? cs = some (n, rest)) : rest.length < cs.length := by
  unfold readNumeral? at h
  split at h
  · have := length_of_readUnsigned? h
    simp only [List.length_cons]
    omega
  · exact length_of_readUnsigned? h

inductive Token where
  | openArray | closeArray | openObject | closeObject | comma | colon
  | string (s : List Piece)
  | scalar (w : Written)
  deriving Repr

/-- The first token behind spaces, and the text behind it. -/
def readToken? (cs : List Char) : Option (Token × List Char) :=
  match cs.dropWhile space with
  | '[' :: rest => some (.openArray, rest)
  | ']' :: rest => some (.closeArray, rest)
  | '{' :: rest => some (.openObject, rest)
  | '}' :: rest => some (.closeObject, rest)
  | ',' :: rest => some (.comma, rest)
  | ':' :: rest => some (.colon, rest)
  | '"' :: rest => (readPieces? rest).map fun (ps, r) => (.string ps, r)
  | 'n' :: 'u' :: 'l' :: 'l' :: rest => some (.scalar .null, rest)
  | 't' :: 'r' :: 'u' :: 'e' :: rest => some (.scalar (.bool true), rest)
  | 'f' :: 'a' :: 'l' :: 's' :: 'e' :: rest => some (.scalar (.bool false), rest)
  | cs => (readNumeral? cs).map fun (n, r) => (.scalar (.number n), r)

theorem length_dropWhile_le {α : Type} (p : α → Bool) (xs : List α) :
    (xs.dropWhile p).length ≤ xs.length := by
  have := congrArg List.length (List.takeWhile_append_dropWhile (p := p) (l := xs))
  rw [List.length_append] at this
  omega

theorem length_of_readToken? {cs rest : List Char} {t : Token}
    (h : readToken? cs = some (t, rest)) : rest.length < cs.length := by
  have hle := length_dropWhile_le space cs
  unfold readToken? at h
  split at h
  case h_7 heq =>
    simp only [Option.map_eq_some_iff, Prod.exists] at h
    obtain ⟨ps, r, h', h⟩ := h
    have := length_of_readPieces? h'
    grind
  case h_11 =>
    simp only [Option.map_eq_some_iff, Prod.exists] at h
    obtain ⟨n, r, h', h⟩ := h
    have := length_of_readNumeral? h'
    grind
  all_goals grind

/-- An array or object that is not closed yet, its complete parts last first. -/
inductive Frame where
  | items (before : List Written)
  | members (before : List (List Piece × Written)) (key : List Piece)

/-- What may come next. -/
inductive State where
  | value (stack : List Frame)
  | firstItem (stack : List Frame)
  | nextItem (before : List Written) (stack : List Frame)
  | firstKey (stack : List Frame)
  | key (before : List (List Piece × Written)) (stack : List Frame)
  | colon (before : List (List Piece × Written)) (key : List Piece) (stack : List Frame)
  | nextMember (before : List (List Piece × Written)) (stack : List Frame)

/-- Puts a complete value into the innermost frame; without one it is the result. -/
def finish (w : Written) : List Frame → Written ⊕ State
  | [] => .inl w
  | .items before :: stack => .inr (.nextItem (w :: before) stack)
  | .members before key :: stack => .inr (.nextMember ((key, w) :: before) stack)

def start (stack : List Frame) : Token → Option (Written ⊕ State)
  | .openArray => some (.inr (.firstItem stack))
  | .openObject => some (.inr (.firstKey stack))
  | .string s => some (finish (.string s) stack)
  | .scalar w => some (finish w stack)
  | _ => none

def State.step : State → Token → Option (Written ⊕ State)
  | .value stack, t => start stack t
  | .firstItem stack, .closeArray => some (finish (.array []) stack)
  | .firstItem stack, t => start (.items [] :: stack) t
  | .nextItem before stack, .comma => some (.inr (.value (.items before :: stack)))
  | .nextItem before stack, .closeArray => some (finish (.array before.reverse) stack)
  | .firstKey stack, .string k => some (.inr (.colon [] k stack))
  | .firstKey stack, .closeObject => some (finish (.object []) stack)
  | .key before stack, .string k => some (.inr (.colon before k stack))
  | .colon before k stack, .colon => some (.inr (.value (.members before k :: stack)))
  | .nextMember before stack, .comma => some (.inr (.key before stack))
  | .nextMember before stack, .closeObject => some (finish (.object before.reverse) stack)
  | _, _ => none

def State.run (s : State) (cs : List Char) : Option (Written × List Char) :=
  match _h : readToken? cs with
  | none => none
  | some (t, rest) =>
    match s.step t with
    | none => none
    | some (.inl w) => some (w, rest)
    | some (.inr s') => s'.run rest
  termination_by cs.length
  decreasing_by exact length_of_readToken? _h

/-- The first value of a text, and the text behind it. -/
def Written.read? (cs : List Char) : Option (Written × List Char) := State.run (.value []) cs

end Entitlements.Json
