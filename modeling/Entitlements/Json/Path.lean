import Entitlements.Json.Reader

set_option autoImplicit false

/-!
Where a text goes wrong. Values decode as they are read, so a part that does not decode is found
before the text behind it, and the path leads through the arrays and objects that are open there.
-/

namespace Entitlements.Json

/-- A step into an array or an object; a member whose key was not read has no name. -/
inductive Segment where
  | index (i : Nat)
  | key (k : String)
  | unnamed
  deriving DecidableEq, Repr

abbrev Path := List Segment

def Segment.text : Segment → String
  | .index i => "[" ++ String.ofList (Nat.toDigits 10 i) ++ "]"
  | .key k => k
  | .unnamed => "?"

/-- Names are set off from what is in front of them. -/
def Segment.textBehind : Segment → String
  | .index i => (index i).text
  | s => "." ++ s.text

def Path.text : Path → String
  | [] => "."
  | s :: path => s.text ++ String.join (path.map Segment.textBehind)

mutual

/-- The path to the first part of a value that does not decode. -/
def Written.flaw? (levels : Nat) : Written → Option Path
  | .null | .bool _ => none
  | .number n => if n.decode?.isSome then none else some []
  | .string ps => if (decodeString? ps).isSome then none else some []
  | .array ws =>
    match levels with
    | 0 => some []
    | levels + 1 => itemsFlaw? levels 0 ws
  | .object ms =>
    match levels with
    | 0 => some []
    | levels + 1 => membersFlaw? levels ms

def itemsFlaw? (levels i : Nat) : List Written → Option Path
  | [] => none
  | w :: ws => ((w.flaw? levels).map (.index i :: ·)).or (itemsFlaw? levels (i + 1) ws)

def membersFlaw? (levels : Nat) : List (List Piece × Written) → Option Path
  | [] => none
  | (k, w) :: ms =>
    match decodeString? k with
    | some k => ((w.flaw? levels).map (.key k :: ·)).or (membersFlaw? levels ms)
    | none => some [.unnamed]

end

/-- The path on through what is not closed yet, outermost first. The parts in front were read
before, and so was the key of a member. -/
def openPath (inner : Nat → Path) (levels : Nat) : List Frame → Path
  | [] => inner levels
  | .items before :: frames =>
    match levels with
    | 0 => []
    | levels + 1 =>
      (itemsFlaw? levels 0 before.reverse).getD (.index before.length :: openPath inner levels frames)
  | .members before k :: frames =>
    match levels with
    | 0 => []
    | levels + 1 =>
      (membersFlaw? levels before.reverse).getD <|
        match decodeString? k with
        | some k => .key k :: openPath inner levels frames
        | none => [.unnamed]

/-- The path to a key that is still to come. -/
def keyPath (before : List (List Piece × Written)) : Nat → Path
  | 0 => []
  | levels + 1 => (membersFlaw? levels before.reverse).getD [.unnamed]

/-- The path to the part that is being read. -/
def State.path (levels : Nat) : State → Path
  | .value stack => openPath (fun _ => []) levels stack.reverse
  | .firstItem stack => openPath (fun _ => []) levels (.items [] :: stack).reverse
  | .nextItem before stack => openPath (fun _ => []) levels (.items before :: stack).reverse
  | .firstKey stack => openPath (keyPath []) levels stack.reverse
  | .key before stack | .nextMember before stack => openPath (keyPath before) levels stack.reverse
  | .colon before k stack => openPath (fun _ => []) levels (.members before k :: stack).reverse

/-- The state in which a text breaks off that does not begin with a value. -/
def State.stop (s : State) (cs : List Char) : State :=
  match _h : readToken? cs with
  | none => s
  | some (t, rest) =>
    match s.step t with
    | some (.inr s') => s'.stop rest
    | _ => s
  termination_by cs.length
  decreasing_by exact length_of_readToken? _h

/-- The first value of a text and the text behind it, or the path to where reading it fails. -/
def readAt (levels : Nat) (cs : List Char) : Except Path (Json × List Char) :=
  match Written.read? cs with
  | some (w, rest) =>
    match w.decode? levels with
    | some v => .ok (v, rest)
    | none => .error ((w.flaw? levels).getD [])
  | none => .error ((State.stop (.value []) cs).path levels)

theorem State.length_of_run {s : State} {cs rest : List Char} {w : Written}
    (h : s.run cs = some (w, rest)) : rest.length < cs.length := by
  fun_induction State.run s cs with
  | case1 | case2 => cases h
  | case3 s cs t r read =>
    obtain ⟨-, rfl⟩ := Prod.mk.inj (Option.some.inj h)
    exact length_of_readToken? read
  | case4 s cs t r read s' more ih => exact Nat.lt_trans (ih h) (length_of_readToken? read)

theorem length_of_readAt {levels : Nat} {cs rest : List Char} {v : Json}
    (h : readAt levels cs = .ok (v, rest)) : rest.length < cs.length := by
  unfold readAt at h
  split at h
  · next w r read =>
    split at h
    · obtain ⟨-, rfl⟩ := Prod.mk.inj (Except.ok.inj h)
      exact State.length_of_run read
    · cases h
  · cases h

end Entitlements.Json
