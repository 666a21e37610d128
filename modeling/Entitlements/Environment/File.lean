import Entitlements.Environment
import Entitlements.Text.Alphanumeric
import Entitlements.Text.Utf8

set_option autoImplicit false

/-!
Files of variables with lines `NAME=value`. A value may be quoted, over several lines too, `#`
begins a comment, and `$NAME` stands for the value of a variable. A file sets only variables that
are not set; its first faulty line ends the reading, and what came before it is kept.
-/

namespace Entitlements.Environment

/-- What is open at some point of a line. -/
inductive Quoting where
  | none | blank | escape | strong | strongEscape | weak | weakEscape
  deriving DecidableEq, Repr

namespace Quoting

/-- What a character opens outside of quotes. -/
def opened (c : Char) : Quoting :=
  if c = '\\' then .escape
  else if c = '"' then .weak
  else if c = '\'' then .strong
  else .none

/-- What is open behind one more character; nothing is told when a comment begins with it. -/
def next? : Quoting → Char → Option Quoting
  | .blank, c => if c = '#' then Option.none else some (opened c)
  | .none, c => some (if Text.blank c ∧ c ≠ '\n' ∧ c ≠ '\r' then .blank else opened c)
  | .escape, _ => some .none
  | .strong, c => some (if c = '\\' then .strongEscape else if c = '\'' then .none else .strong)
  | .strongEscape, _ => some .strong
  | .weak, c => some (if c = '\\' then .weakEscape else if c = '"' then .none else .weak)
  | .weakEscape, _ => some .weak

/-- The text of a line up to a comment, and what is open at its end when there is no comment. -/
def scan (q : Quoting) : List Char → List Char × Option Quoting
  | [] => ([], some q)
  | c :: cs =>
    match q.next? c with
    | Option.none => ([], Option.none)
    | some q => (c :: (q.scan cs).1, (q.scan cs).2)

end Quoting

/-- Bytes cut behind each line feed. -/
def cutLines : List UInt8 → List (List UInt8)
  | [] => []
  | b :: bs =>
    if b = 0x0a then [b] :: cutLines bs
    else match cutLines bs with
      | [] => [[b]]
      | l :: ls => (b :: l) :: ls

/-- The lines before the first one that is not UTF-8. -/
def decodeLines : List (List UInt8) → List (List Char)
  | [] => []
  | l :: ls =>
    match Text.decodeUtf8? l with
    | some s => s.toList :: decodeLines ls
    | none => []

/-- Joins lines as long as something is open. Comment lines are left out, and so is a line that is
still open where the text ends. -/
def joinLines (start : List Char) (q : Quoting) : List (List Char) → List (List Char)
  | [] => []
  | l :: ls =>
    if (Text.trimLeft (start ++ l)).head? = some '#' then joinLines [] .none ls
    else match q.scan l with
      | (text, none) => (start ++ text) :: joinLines [] .none ls
      | (text, some .none) => (start ++ text) :: joinLines [] .none ls
      | (text, some q) => joinLines (start ++ text) q ls

/-- Where a reader stands in a value; `weak` tells that double quotes are open. -/
inductive ValueMode where
  | text (weak : Bool)
  | strong
  | escape (weak : Bool)
  | name (weak : Bool) (read : List Char)
  | braced (weak : Bool) (read : List Char)
  | ended
  deriving DecidableEq, Repr

def escaped? : Char → Option Char
  | '\\' => some '\\'
  | '\'' => some '\''
  | '"' => some '"'
  | '$' => some '$'
  | ' ' => some ' '
  | 'n' => some '\n'
  | _ => none

/-- Reads a value whose variables `lookup` gives. A name ends before the first character that is
neither letter nor number, and that character stands for itself even when it is a quote. -/
def readValue? (lookup : List Char → List Char) : ValueMode → List Char → Option (List Char)
  | .text false, [] => some []
  | .escape false, [] => some []
  | .name false read, [] => some (lookup read)
  | .ended, [] => some []
  | _, [] => none
  | .ended, c :: cs =>
    if c = ' ' ∨ c = '\t' then readValue? lookup .ended cs
    else if c = '#' then some []
    else none
  | .escape weak, c :: cs =>
    (escaped? c).bind fun c => (readValue? lookup (.text weak) cs).map (c :: ·)
  | .strong, c :: cs =>
    if c = '\'' then readValue? lookup (.text false) cs
    else (readValue? lookup .strong cs).map (c :: ·)
  | .name weak read, c :: cs =>
    if Text.alphanumeric c then readValue? lookup (.name weak (read ++ [c])) cs
    else if c = '{' ∧ read = [] then readValue? lookup (.braced weak []) cs
    else if c = '$' then (readValue? lookup (.name weak []) cs).map (lookup read ++ ·)
    else (readValue? lookup (.text weak) cs).map (lookup read ++ c :: ·)
  | .braced weak read, c :: cs =>
    if c = '}' then (readValue? lookup (.text weak) cs).map (lookup read ++ ·)
    else readValue? lookup (.braced weak (read ++ [c])) cs
  | .text weak, c :: cs =>
    if c = '$' then readValue? lookup (.name weak []) cs
    else if c = '\\' then readValue? lookup (.escape weak) cs
    else if c = '"' then readValue? lookup (.text !weak) cs
    else if weak then (readValue? lookup (.text weak) cs).map (c :: ·)
    else if c = '\'' then readValue? lookup .strong cs
    else if c = ' ' ∨ c = '\t' then readValue? lookup .ended cs
    else (readValue? lookup (.text weak) cs).map (c :: ·)

def nameStart (c : Char) : Bool :=
  (decide ('a' ≤ c) && decide (c ≤ 'z')) || (decide ('A' ≤ c) && decide (c ≤ 'Z')) || c == '_'

def nameChar (c : Char) : Bool := nameStart c || (decide ('0' ≤ c) && decide (c ≤ '9')) || c == '.'

/-- A name, and what follows it and some blanks. -/
def readName? (cs : List Char) : Option (List Char × List Char) :=
  if cs.head?.any nameStart then
    some (cs.takeWhile nameChar, Text.trimLeft (cs.dropWhile nameChar))
  else none

def readEqual? : List Char → Option (List Char)
  | '=' :: cs => some (Text.trimLeft cs)
  | _ => none

/-- The name and the text of the value; the word `export` may stand in front or be the name. -/
def readTarget? (cs : List Char) : Option (List Char × List Char) := do
  let (name, rest) ← readName? cs
  match readEqual? rest with
  | some value => return (name, value)
  | none =>
    if name = ['e', 'x', 'p', 'o', 'r', 't'] then
      let (name, rest) ← readName? rest
      return (name, ← readEqual? rest)
    else none

/-- Whether there is nothing but blanks or a comment. -/
def vacant (cs : List Char) : Bool := cs.isEmpty || cs.head? == some '#'

/-- The assignment of a line, if any; none at all when the line is faulty. -/
def readLine? (e : Environment) (line : List Char) : Option (Option (String × String)) := do
  let line := Text.trimChars line
  if vacant line then return none
  let (name, value) ← readTarget? line
  let value ← if vacant value then some [] else readValue? e.expansion (.text false) value
  return some (.ofList name, .ofList value)

def setLines (e : Environment) : List (List Char) → Environment
  | [] => e
  | l :: ls =>
    match e.readLine? l with
    | none => e
    | some none => e.setLines ls
    | some (some (name, value)) => setLines (OrderedMap.insertNew e name value) ls

/-- The bytes without a byte order mark. -/
def dropMark : List UInt8 → List UInt8
  | 0xef :: 0xbb :: 0xbf :: bs => bs
  | bs => bs

/-- The environment with the variables of a file. -/
def setFile (e : Environment) (content : List UInt8) : Environment :=
  e.setLines (joinLines [] .none (decodeLines (cutLines (dropMark content))))

end Entitlements.Environment
