import Entitlements.Configuration
import Entitlements.Proofs.Json.Parts

set_option autoImplicit false

/-!
One pass over a document takes its parts one after the other. So a text that begins with a value is
read as this value says, and the text behind it is not looked at.
-/

namespace Entitlements.Configuration
open Json (Piece Written MemberText MembersText ItemsText)

/-- What the name of the guard is not even looked into. -/
def nested? : Field → Written → Option Json
  | .defaultGuard, .array _ => some (.array [])
  | .defaultGuard, .object _ => some (.object [])
  | _, _ => none

/-- Sets one field from what is written for it. -/
def take (c : Configuration) (f : Field) (w : Written) : Except Fault Configuration :=
  match nested? f w with
  | some found => .error ⟨[], .guardName found⟩
  | none =>
    match w.decode? (Json.maxLevels - 1) with
    | some v => (c.set f v).mapError (⟨[], ·⟩)
    | none => .error ⟨(w.flaw? (Json.maxLevels - 1)).getD [], .notJson⟩

/-- Takes one member of an object behind others with the fields that were seen. -/
def takeMember (c : Configuration) (seen : List Field) (m : List Piece × Written) :
    Except Fault (Configuration × List Field) :=
  match Json.decodeString? m.1 with
  | none => .error ⟨[.unnamed], .notJson⟩
  | some k =>
    match Field.ofName? k with
    | none => .ok (c, seen)
    | some f =>
      if f ∈ seen then .error ⟨[], .duplicate f⟩
      else ((c.take f m.2).mapError (.under (.key k))).map fun c => (c, f :: seen)

def takeMembers (c : Configuration) (seen : List Field) :
    List (List Piece × Written) → Except Fault Configuration
  | [] => .ok c
  | m :: ms => do
    let (c, seen) ← c.takeMember seen m
    c.takeMembers seen ms

def takeItems (c : Configuration) (i : Nat) : List Field → List Written → Except Fault Configuration
  | _, [] => .ok c
  | [], _ :: _ => .error ⟨[], .tooMany⟩
  | f :: fs, w :: ws => do
    let c ← (c.take f w).mapError (.under (.index i))
    c.takeItems (i + 1) fs ws

def ofWritten : Written → Except Fault Configuration
  | .object ms => standard.takeMembers [] ms
  | .array ws => standard.takeItems 0 Field.all ws
  | w =>
    match w.decode? Json.maxLevels with
    | some v => .error ⟨[], .notDocument v⟩
    | none => .error ⟨(w.flaw? Json.maxLevels).getD [], .notJson⟩

variable {c : Configuration} {seen : List Field} {f : Field} {cs rest : List Char} {w : Written}

theorem refusedAtStart?_eq (value : Written.read? cs = some (w, rest)) (f : Field) :
    refusedAtStart? f cs = nested? f w := by
  cases Json.partsText_of_read? value with
  | emptyObject start | object start | emptyArray start | array start | string start =>
    unfold refusedAtStart?
    rw [start]
    cases f <;> rfl
  | scalar start =>
    have single := Json.closed_of_scalar start
    unfold refusedAtStart?
    rw [start]
    cases f <;> cases w <;> first | rfl | cases single

theorem readField_eq (value : Written.read? cs = some (w, rest)) :
    c.readField f cs = (c.take f w).map fun c => (c, rest) := by
  rw [readField, take, refusedAtStart?_eq value]
  cases nested? f w with
  | some found => rfl
  | none =>
    rw [readValue, Json.readAt, value]
    dsimp only
    cases w.decode? (Json.maxLevels - 1) with
    | none => rfl
    | some v =>
      dsimp only
      change ((c.set f v).mapError _).bind _ = _
      cases c.set f v <;> rfl

theorem skipValue_eq (value : Written.read? cs = some (w, rest)) : skipValue cs = .ok rest := by
  unfold skipValue
  rw [value]

theorem readNamed_eq {α : Type} {k : String} (colon : Json.readToken? cs = some (.colon, rest))
    (next : List Char → Except Fault α) :
    readNamed k next cs = (next rest).mapError (.under (.key k)) := by
  unfold readNamed
  rw [colon]

theorem readMember_eq (c : Configuration) (seen : List Field) {m : List Piece × Written}
    (text : MemberText cs m rest) :
    c.readMember seen cs = (c.takeMember seen m).map fun p => (p.1, p.2, rest) := by
  cases text with
  | @mk _ cs₁ cs₂ k w key colon value =>
    rw [readMember, key, takeMember]
    dsimp only
    cases Json.decodeString? k with
    | none => rfl
    | some k =>
      dsimp only
      cases Field.ofName? k with
      | none =>
        dsimp only
        rw [readNamed_eq colon, skipValue_eq value]
        rfl
      | some f =>
        dsimp only
        rw [readNamed_eq colon, readField_eq value]
        split
        · rfl
        · cases c.take f w <;> rfl

theorem readMembers_of_error {fault : Fault} (h : c.readMember seen cs = .error fault) :
    c.readMembers seen cs = .error fault := by
  rw [readMembers]
  split <;> simp_all

theorem readMembers_of_last {c' : Configuration} {seen' : List Field} {cs₁ : List Char}
    (h : c.readMember seen cs = .ok (c', seen', cs₁))
    (close : Json.readToken? cs₁ = some (.closeObject, rest)) : c.readMembers seen cs = .ok c' := by
  rw [readMembers]
  split
  · simp_all
  · split <;> simp_all

theorem readMembers_of_more {c' : Configuration} {seen' : List Field} {cs₁ cs₂ : List Char}
    (h : c.readMember seen cs = .ok (c', seen', cs₁))
    (comma : Json.readToken? cs₁ = some (.comma, cs₂)) :
    c.readMembers seen cs = c'.readMembers seen' cs₂ := by
  rw [readMembers]
  split
  · simp_all
  · split <;> simp_all

/-- By induction on the text: what was taken from a member goes on to the text behind it. -/
theorem readMembers_eq {ms : List (List Piece × Written)} (text : MembersText cs ms rest) :
    c.readMembers seen cs = c.takeMembers seen ms := by
  induction text generalizing c seen with
  | @last cs cs₁ rest m first close =>
    have member := readMember_eq c seen first
    rw [takeMembers]
    cases h : c.takeMember seen m with
    | error fault =>
      rw [h] at member
      exact readMembers_of_error member
    | ok p =>
      rw [h] at member
      exact readMembers_of_last member close
  | @more cs cs₁ cs₂ rest m ms first comma others ih =>
    have member := readMember_eq c seen first
    rw [takeMembers]
    cases h : c.takeMember seen m with
    | error fault =>
      rw [h] at member
      exact readMembers_of_error member
    | ok p =>
      rw [h] at member
      rw [readMembers_of_more member comma]
      exact ih

theorem nextItem_of_close {i : Nat} (close : Json.readToken? cs = some (.closeArray, rest)) :
    nextItem i cs = .ok none := by
  unfold nextItem
  rw [close]

theorem nextItem_of_comma {i : Nat} (comma : Json.readToken? cs = some (.comma, rest)) :
    nextItem (i + 1) cs = .ok (some rest) := by
  unfold nextItem
  rw [comma]
  rfl

theorem nextItem_of_read? (value : Written.read? cs = some (w, rest)) :
    nextItem 0 cs = .ok (some cs) := by
  obtain ⟨t, r, token, other⟩ := Json.exists_token_of_read? value
  unfold nextItem
  rw [token]
  cases t with
  | closeArray => exact absurd rfl other
  | _ => rfl

theorem endItems_of_more {cs₁ : List Char} (comma : Json.readToken? cs = some (.comma, cs₁))
    (value : Written.read? cs₁ = some (w, rest)) : endItems cs = .error ⟨[], .tooMany⟩ := by
  obtain ⟨t, r, token, other⟩ := Json.exists_token_of_read? value
  rw [endItems, comma]
  dsimp only
  rw [token]
  cases t with
  | closeArray => exact absurd rfl other
  | _ => rfl

/-- Behind the first item every item comes with its comma. -/
theorem readItems_eq {i : Nat} {fs : List Field} {ws : List Written}
    (text : ItemsText cs ws rest) : c.readItems (i + 1) fs cs = c.takeItems (i + 1) fs ws := by
  induction text generalizing c i fs with
  | last close =>
    cases fs with
    | nil =>
      rw [readItems, endItems, close]
      rfl
    | cons f fs =>
      rw [readItems, nextItem_of_close close]
      rfl
  | more comma value others ih =>
    cases fs with
    | nil =>
      rw [readItems, endItems_of_more comma value]
      rfl
    | cons f fs =>
      rw [readItems, nextItem_of_comma comma, takeItems]
      change ((c.readField f _).mapError _).bind _ = _
      rw [readField_eq value]
      cases c.take f _ with
      | error fault => rfl
      | ok c' => exact ih

/-- Neither bracket nor brace in front. -/
theorem read_of_plain {text : String} (value : Written.read? text.toList = some (w, rest))
    (object : ∀ r, Json.readToken? text.toList ≠ some (.openObject, r))
    (array : ∀ r, Json.readToken? text.toList ≠ some (.openArray, r)) :
    read text = match w.decode? Json.maxLevels with
      | some v => .error ⟨[], .notDocument v⟩
      | none => .error ⟨(w.flaw? Json.maxLevels).getD [], .notJson⟩ := by
  unfold read
  split
  · rename_i token
    exact absurd token (object _)
  · rename_i token
    exact absurd token (array _)
  · rw [readValue, Json.readAt, value]
    dsimp only
    cases w.decode? Json.maxLevels <;> rfl

/-- A text that begins with a value is read as the value says. -/
theorem read_eq {text : String} (value : Written.read? text.toList = some (w, rest)) :
    read text = ofWritten w := by
  cases Json.partsText_of_read? value with
  | emptyObject start close =>
    rw [read, start]
    dsimp only
    rw [close]
    rfl
  | @object cs₁ _ ms start members =>
    have key : ∃ k r, Json.readToken? cs₁ = some (.string k, r) := by
      cases members with
      | last member | more member =>
        cases member with
        | mk key => exact ⟨_, _, key⟩
    obtain ⟨k, r, key⟩ := key
    rw [read, start]
    dsimp only
    rw [key]
    exact readMembers_eq members
  | emptyArray start close =>
    rw [read, start]
    change standard.readItems 0 Field.all _ = _
    rw [Field.all, readItems, nextItem_of_close close]
    rfl
  | @array cs₁ cs₂ _ w ws start first others =>
    rw [read, start]
    change standard.readItems 0 Field.all _ = standard.takeItems 0 Field.all (w :: ws)
    rw [Field.all, readItems, nextItem_of_read? first, takeItems]
    change ((standard.readField _ cs₁).mapError _).bind _ = _
    rw [readField_eq first]
    cases standard.take .permissions w with
    | error fault => rfl
    | ok c' => exact readItems_eq others
  | string start =>
    exact read_of_plain value (fun r => by rw [start]; rintro ⟨⟩) (fun r => by rw [start]; rintro ⟨⟩)
  | scalar start =>
    have single := Json.closed_of_scalar start
    rw [read_of_plain value (fun r => by rw [start]; rintro ⟨⟩) (fun r => by rw [start]; rintro ⟨⟩)]
    cases w <;> first | rfl | cases single

end Entitlements.Configuration
