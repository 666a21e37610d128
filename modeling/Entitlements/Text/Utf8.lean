set_option autoImplicit false

/-!
UTF-8 with replacement: bytes are read one by one, and every ill-formed stretch, as long as it
starts a character, gives one U+FFFD.
-/

namespace Entitlements.Text

/-- A character that is not complete: its bits so far, how many bytes it lacks, and the range of the
next one. -/
structure Unfinished where
  code : Nat
  missing : Nat
  low : UInt8
  high : UInt8

def replacement : Char := '\ufffd'

/-- What a byte gives that starts a character: text, and what stays unfinished. The range of the
second byte keeps out codes that are too long, surrogates, or too large. -/
def startChar (b : UInt8) : List Char × Option Unfinished :=
  if b < 0x80 then ([.ofNat b.toNat], none)
  else if b < 0xc2 then ([replacement], none)
  else if b < 0xe0 then ([], some ⟨b.toNat % 0x20, 1, 0x80, 0xbf⟩)
  else if b < 0xf0 then
    let low := if b = 0xe0 then 0xa0 else 0x80
    let high := if b = 0xed then 0x9f else 0xbf
    ([], some ⟨b.toNat % 0x10, 2, low, high⟩)
  else if b < 0xf5 then
    let low := if b = 0xf0 then 0x90 else 0x80
    let high := if b = 0xf4 then 0x8f else 0xbf
    ([], some ⟨b.toNat % 0x08, 3, low, high⟩)
  else ([replacement], none)

/-- The character with one more byte; none when the byte does not belong to it. -/
def Unfinished.feed? (u : Unfinished) (b : UInt8) : Option (List Char × Option Unfinished) :=
  if u.low ≤ b ∧ b ≤ u.high then
    let code := u.code * 0x40 + b.toNat % 0x40
    if u.missing = 1 then some ([.ofNat code], none)
    else some ([], some ⟨code, u.missing - 1, 0x80, 0xbf⟩)
  else none

def decodeFrom : Option Unfinished → List UInt8 → List Char
  | none, [] => []
  | some _, [] => [replacement]
  | none, b :: bs => (startChar b).1 ++ decodeFrom (startChar b).2 bs
  | some u, b :: bs =>
    match u.feed? b with
    | some (cs, next) => cs ++ decodeFrom next bs
    | none => replacement :: (startChar b).1 ++ decodeFrom (startChar b).2 bs

def decodeLossy (bs : List UInt8) : String := .ofList (decodeFrom none bs)

/-- The text that bytes spell in UTF-8, when they are well-formed. -/
def decodeUtf8? (bs : List UInt8) : Option String := String.fromUTF8? ⟨bs.toArray⟩

/-- The first ill-formed stretch: where it begins, and its length unless the bytes end within it. -/
structure Flaw where
  start : Nat
  length : Option Nat
  deriving DecidableEq, Repr

def Flaw.text (f : Flaw) : String :=
  let start := " from index " ++ .ofList (Nat.toDigits 10 f.start)
  match f.length with
  | some n => "invalid utf-8 sequence of " ++ .ofList (Nat.toDigits 10 n) ++ " bytes" ++ start
  | none => "incomplete utf-8 byte sequence" ++ start

/-- Looks from `start` on, where a character of which `held` bytes were read is unfinished. -/
def flawFrom? (start held : Nat) : Option Unfinished → List UInt8 → Option Flaw
  | none, [] => none
  | some _, [] => some ⟨start, none⟩
  | none, b :: bs =>
    match startChar b with
    | (_, some u) => flawFrom? start 1 (some u) bs
    | (_, none) => if b < 0x80 then flawFrom? (start + 1) 0 none bs else some ⟨start, some 1⟩
  | some u, b :: bs =>
    match u.feed? b with
    | some (_, some u) => flawFrom? start (held + 1) (some u) bs
    | some (_, none) => flawFrom? (start + held + 1) 0 none bs
    | none => some ⟨start, some held⟩

def flaw? (bs : List UInt8) : Option Flaw := flawFrom? 0 0 none bs

/-- The text that bytes spell in UTF-8, or why they spell none. -/
def readUtf8 (bs : List UInt8) : Except Flaw String :=
  match flaw? bs with
  | some f => .error f
  | none => .ok (decodeLossy bs)

def utf8 (s : String) : List UInt8 := s.toUTF8.data.toList

end Entitlements.Text
