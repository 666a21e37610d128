import Entitlements.Text.CaseTable

set_option autoImplicit false

/-!
Full case mapping. A character may map to several; capital sigma at the end of a word becomes the
final small sigma.
-/

namespace Entitlements.Text

def cased (c : Char) : Bool := casedRanges.member c

def caseIgnorable (c : Char) : Bool := ignorableRanges.member c

/-- Small letters of one character, whatever stands around it. -/
def lowerChar (c : Char) : List Char :=
  if c = 'İ' then ['i', '\u0307'] else [.ofNat (Run.apply lowerRuns c.toNat)]

/-- Capital letters of one character. -/
def upperChar (c : Char) : List Char :=
  match upperExpansions.lookup c.toNat with
  | some ns => ns.map .ofNat
  | none => [.ofNat (Run.apply upperRuns c.toNat)]

/-- The next character that is not ignorable exists and is cased. -/
def casedNext (cs : List Char) : Bool :=
  match cs.dropWhile caseIgnorable with
  | c :: _ => cased c
  | [] => false

/-- A sigma between `before`, read backwards, and `after` ends a word. -/
def endsWord (before after : List Char) : Bool := casedNext before && !casedNext after

def lowerFrom (before : List Char) : List Char → List Char
  | [] => []
  | c :: cs =>
    (if c = 'Σ' then [if endsWord before cs then 'ς' else 'σ'] else lowerChar c) ++
      lowerFrom (c :: before) cs

def lowerChars (cs : List Char) : List Char := lowerFrom [] cs

def lower (s : String) : String := .ofList (lowerChars s.toList)

end Entitlements.Text
