import Entitlements.Text.Range

set_option autoImplicit false

/-!
Blanks are the characters with the Unicode property White_Space. Trimming takes them off both ends
of a text; its words are the non-empty pieces between them.
-/

namespace Entitlements.Text

/-- The property White_Space. -/
def blankRanges : Ranges :=
  [(0x9, 0xd), (0x20, 0x20), (0x85, 0x85), (0xa0, 0xa0), (0x1680, 0x1680), (0x2000, 0x200a),
   (0x2028, 0x2029), (0x202f, 0x202f), (0x205f, 0x205f), (0x3000, 0x3000)]

def blank (c : Char) : Bool := blankRanges.member c

def trimLeft (cs : List Char) : List Char := cs.dropWhile blank

def trimRight (cs : List Char) : List Char := (cs.reverse.dropWhile blank).reverse

def trimChars (cs : List Char) : List Char := trimRight (trimLeft cs)

def trim (s : String) : String := .ofList (trimChars s.toList)

def isBlank (s : String) : Bool := s.toList.all blank

theorem all_dropWhile {α : Type} (f : α → Bool) (xs : List α) :
    (xs.dropWhile f).all f = xs.all f := by
  induction xs with
  | nil => rfl
  | cons x xs ih => by_cases h : f x = true <;> simp_all

/-- Trimming leaves nothing of a blank text, and something of any other. -/
theorem trim_eq_empty_iff {s : String} : trim s = "" ↔ isBlank s = true := by
  have empties (cs : List Char) : cs.dropWhile blank = [] ↔ cs.all blank = true := by
    induction cs with
    | nil => simp
    | cons c cs ih => by_cases h : blank c = true <;> simp_all
  rw [trim, String.ofList_eq_empty_iff, trimChars, trimRight, List.reverse_eq_nil_iff, empties,
    List.all_reverse, trimLeft, all_dropWhile, isBlank]

/-- The stretches between the characters that satisfy `sep`, empty ones included. -/
def pieces (sep : Char → Bool) : List Char → List (List Char)
  | [] => [[]]
  | c :: cs =>
    if sep c then [] :: pieces sep cs
    else match pieces sep cs with
      | [] => [[c]]
      | w :: ws => (c :: w) :: ws

/-- The non-empty stretches between the characters that satisfy `sep`. -/
def tokens (sep : Char → Bool) (cs : List Char) : List (List Char) :=
  (pieces sep cs).filter (!·.isEmpty)

/-- Words put in a row with one space between neighbours. -/
def unwords : List (List Char) → List Char
  | [] => []
  | [w] => w
  | w :: ws => w ++ ' ' :: unwords ws

def splitWhere (sep : Char → Bool) (s : String) : List String :=
  (pieces sep s.toList).map .ofList

def tokensWhere (sep : Char → Bool) (s : String) : List String :=
  (tokens sep s.toList).map .ofList

/-- What stands before and after the first `c`, when there is one. -/
def cutAt (c : Char) : List Char → Option (List Char × List Char)
  | [] => none
  | d :: ds => if d = c then some ([], ds) else (cutAt c ds).map fun (a, b) => (d :: a, b)

theorem cutAt_of_notMem {c : Char} {cs : List Char} (absent : c ∉ cs) : cutAt c cs = none := by
  induction cs with
  | nil => rfl
  | cons d ds ih =>
    rw [List.mem_cons, not_or] at absent
    rw [cutAt, if_neg (Ne.symm absent.1), ih absent.2]
    rfl

theorem cutAt_append {c : Char} {before : List Char} (first : c ∉ before) (after : List Char) :
    cutAt c (before ++ c :: after) = some (before, after) := by
  induction before with
  | nil => exact if_pos rfl
  | cons d ds ih =>
    rw [List.mem_cons, not_or] at first
    rw [List.cons_append, cutAt, if_neg (Ne.symm first.1), ih first.2]
    rfl

end Entitlements.Text
