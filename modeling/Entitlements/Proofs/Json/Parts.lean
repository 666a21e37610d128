import Entitlements.Json.Path
import Entitlements.Proofs.Json.RoundTrip

set_option autoImplicit false

/-!
The parts of a value. A value is read inside an array or an object as it is read alone, so a text
that begins with an array or an object has the texts of its parts one behind the other. A value
decodes just when none of its parts has a flaw.
-/

namespace Entitlements.Json

namespace State
variable {s s' : State} {t : Token} {cs rest : List Char} {w : Written} {stack outer : List Frame}

/-- The same state inside of other arrays and objects. -/
def under (outer : List Frame) : State → State
  | .value stack => .value (stack ++ outer)
  | .firstItem stack => .firstItem (stack ++ outer)
  | .nextItem before stack => .nextItem before (stack ++ outer)
  | .firstKey stack => .firstKey (stack ++ outer)
  | .key before stack => .key before (stack ++ outer)
  | .colon before k stack => .colon before k (stack ++ outer)
  | .nextMember before stack => .nextMember before (stack ++ outer)

/-- A value that is complete by itself is a part of what it stands in. -/
def nest (outer : List Frame) : Written ⊕ State → Written ⊕ State
  | .inl w => finish w outer
  | .inr s => .inr (s.under outer)

theorem finish_append (w : Written) (stack outer : List Frame) :
    finish w (stack ++ outer) = nest outer (finish w stack) := by
  cases stack with
  | nil => rfl
  | cons frame stack => cases frame <;> rfl

theorem start_append (stack outer : List Frame) (t : Token) :
    start (stack ++ outer) t = (start stack t).map (nest outer) := by
  cases t with
  | string ps | scalar w => exact congrArg some (finish_append _ stack outer)
  | _ => rfl

theorem step_under (s : State) (t : Token) :
    (s.under outer).step t = (s.step t).map (nest outer) := by
  cases s with
  | value stack => exact start_append stack outer t
  | firstItem stack =>
    by_cases close : t = .closeArray
    · subst close
      exact congrArg some (finish_append _ stack outer)
    · rw [under, starts_firstItem _ t close, starts_firstItem _ t close]
      exact start_append (.items [] :: stack) outer t
  | nextItem before stack | nextMember before stack | firstKey stack =>
    cases t with
    | closeArray | closeObject => first | rfl | exact congrArg some (finish_append _ stack outer)
    | _ => rfl
  | key before stack | colon before k stack => cases t <;> rfl

theorem run_of_stuck (read : readToken? cs = some (t, rest)) (stuck : s.step t = none) :
    s.run cs = none := by
  rw [run]
  split <;> simp_all

theorem run_of_unread (read : readToken? cs = none) : s.run cs = none := by
  rw [run]
  split <;> simp_all

theorem run_congr (read : readToken? cs = some (t, rest)) (alike : s.step t = s'.step t) :
    s.run cs = s'.run cs := by
  cases next : s'.step t with
  | none => rw [run_of_stuck read (alike.trans next), run_of_stuck read next]
  | some next' =>
    cases next' with
    | inl w => rw [run_of_done read (alike.trans next), run_of_done read next]
    | inr s'' => rw [run_of_more read (alike.trans next), run_of_more read next]

/-- By induction on the run: what completes the value alone puts it into the frame around it. -/
theorem run_under (s : State) (outer : List Frame) (cs : List Char) :
    (s.under outer).run cs = (s.run cs).bind fun p => resume p.1 outer p.2 := by
  fun_induction run s cs with
  | case1 s cs unread => exact run_of_unread unread
  | case2 s cs t r read stuck =>
    exact run_of_stuck read (by rw [step_under, stuck, Option.map_none])
  | case3 s cs t r read w done =>
    exact run_of_finish read (by rw [step_under, done, Option.map_some, nest])
  | case4 s cs t r read s' more ih =>
    rw [run_of_more read (by rw [step_under, more, Option.map_some, nest]), ih]

theorem run_value (outer : List Frame) (cs : List Char) :
    (value outer).run cs = (Written.read? cs).bind fun p => resume p.1 outer p.2 :=
  run_under (value []) outer cs

theorem exists_token_of_run {p : Written × List Char} (h : s.run cs = some p) :
    ∃ t r, readToken? cs = some (t, r) := by
  cases read : readToken? cs with
  | none =>
    rw [run_of_unread read] at h
    cases h
  | some q => exact ⟨q.1, q.2, rfl⟩

end State

/-- The text of a member, with its key and its value. -/
inductive MemberText : List Char → List Piece × Written → List Char → Prop
  | mk {cs cs₁ cs₂ rest : List Char} {k : List Piece} {w : Written}
      (key : readToken? cs = some (.string k, cs₁)) (colon : readToken? cs₁ = some (.colon, cs₂))
      (value : Written.read? cs₂ = some (w, rest)) : MemberText cs (k, w) rest

/-- The text of one or more members up to the closing brace. -/
inductive MembersText : List Char → List (List Piece × Written) → List Char → Prop
  | last {cs cs₁ rest : List Char} {m : List Piece × Written} (first : MemberText cs m cs₁)
      (close : readToken? cs₁ = some (.closeObject, rest)) : MembersText cs [m] rest
  | more {cs cs₁ cs₂ rest : List Char} {m : List Piece × Written}
      {ms : List (List Piece × Written)} (first : MemberText cs m cs₁)
      (comma : readToken? cs₁ = some (.comma, cs₂)) (others : MembersText cs₂ ms rest) :
      MembersText cs (m :: ms) rest

/-- The text behind an item up to the closing bracket. -/
inductive ItemsText : List Char → List Written → List Char → Prop
  | last {cs rest : List Char} (close : readToken? cs = some (.closeArray, rest)) :
      ItemsText cs [] rest
  | more {cs cs₁ cs₂ rest : List Char} {w : Written} {ws : List Written}
      (comma : readToken? cs = some (.comma, cs₁)) (value : Written.read? cs₁ = some (w, cs₂))
      (others : ItemsText cs₂ ws rest) : ItemsText cs (w :: ws) rest

/-- The text of a value with the texts of its parts. -/
inductive PartsText (cs : List Char) : Written → List Char → Prop
  | emptyObject {cs₁ rest : List Char} (start : readToken? cs = some (.openObject, cs₁))
      (close : readToken? cs₁ = some (.closeObject, rest)) : PartsText cs (.object []) rest
  | object {cs₁ rest : List Char} {ms : List (List Piece × Written)}
      (start : readToken? cs = some (.openObject, cs₁)) (members : MembersText cs₁ ms rest) :
      PartsText cs (.object ms) rest
  | emptyArray {cs₁ rest : List Char} (start : readToken? cs = some (.openArray, cs₁))
      (close : readToken? cs₁ = some (.closeArray, rest)) : PartsText cs (.array []) rest
  | array {cs₁ cs₂ rest : List Char} {w : Written} {ws : List Written}
      (start : readToken? cs = some (.openArray, cs₁)) (first : Written.read? cs₁ = some (w, cs₂))
      (others : ItemsText cs₂ ws rest) : PartsText cs (.array (w :: ws)) rest
  | string {rest : List Char} {ps : List Piece} (token : readToken? cs = some (.string ps, rest)) :
      PartsText cs (.string ps) rest
  | scalar {rest : List Char} {w : Written} (token : readToken? cs = some (.scalar w, rest)) :
      PartsText cs w rest

section Parts
variable {cs cs₁ rest : List Char} {w : Written} {k : List Piece}

theorem MemberText.length {m : List Piece × Written} (h : MemberText cs m rest) :
    rest.length < cs.length := by
  cases h with
  | mk key colon value =>
    have := length_of_readToken? key
    have := length_of_readToken? colon
    have := State.length_of_run value
    omega

/-- Behind a key stands the rest of a member, and the run goes on behind it. -/
theorem exists_memberText {before : List (List Piece × Written)} {p : Written × List Char}
    (key : readToken? cs = some (.string k, cs₁))
    (h : (State.colon before k []).run cs₁ = some p) :
    ∃ w rest, MemberText cs (k, w) rest ∧
      (State.nextMember ((k, w) :: before) []).run rest = some p := by
  obtain ⟨t, cs₂, colon⟩ := State.exists_token_of_run h
  cases t with
  | colon =>
    rw [State.run_of_more colon rfl, State.run_value] at h
    obtain ⟨⟨w, rest⟩, value, h⟩ := Option.bind_eq_some_iff.mp h
    exact ⟨w, rest, .mk key colon value, h⟩
  | _ =>
    rw [State.run_of_stuck colon rfl] at h
    cases h

/-- By induction on the length of the text, of which each member takes a part. -/
theorem exists_membersText {before : List (List Piece × Written)}
    (key : readToken? cs = some (.string k, cs₁))
    (h : (State.colon before k []).run cs₁ = some (w, rest)) :
    ∃ ms, w = .object (before.reverse ++ ms) ∧ MembersText cs ms rest := by
  induction length : cs.length using Nat.strongRecOn generalizing before k cs cs₁ with
  | _ n ih =>
    obtain ⟨v, cs₂, member, h⟩ := exists_memberText key h
    obtain ⟨t, cs₃, next⟩ := State.exists_token_of_run h
    cases t with
    | closeObject =>
      rw [State.run_of_done next rfl] at h
      cases h
      exact ⟨[(k, v)], by simp, .last member next⟩
    | comma =>
      rw [State.run_of_more next rfl] at h
      obtain ⟨t, cs₄, key'⟩ := State.exists_token_of_run h
      cases t with
      | string k' =>
        rw [State.run_of_more key' rfl] at h
        have shorter := Nat.lt_trans (length_of_readToken? next) member.length
        obtain ⟨ms, rfl, others⟩ := ih _ (length ▸ shorter) key' h rfl
        exact ⟨(k, v) :: ms, by simp, .more member next others⟩
      | _ =>
        rw [State.run_of_stuck key' rfl] at h
        cases h
    | _ =>
      rw [State.run_of_stuck next rfl] at h
      cases h

theorem exists_itemsText {before : List Written}
    (h : (State.nextItem before []).run cs = some (w, rest)) :
    ∃ ws, w = .array (before.reverse ++ ws) ∧ ItemsText cs ws rest := by
  induction length : cs.length using Nat.strongRecOn generalizing before cs with
  | _ n ih =>
    obtain ⟨t, cs₁, next⟩ := State.exists_token_of_run h
    cases t with
    | closeArray =>
      rw [State.run_of_done next rfl] at h
      cases h
      exact ⟨[], by simp, .last next⟩
    | comma =>
      rw [State.run_of_more next rfl, State.run_value] at h
      obtain ⟨⟨v, cs₂⟩, value, h⟩ := Option.bind_eq_some_iff.mp h
      have shorter := Nat.lt_trans (State.length_of_run value) (length_of_readToken? next)
      obtain ⟨ws, rfl, others⟩ := ih _ (length ▸ shorter) h rfl
      exact ⟨v :: ws, by simp, .more next value others⟩
    | _ =>
      rw [State.run_of_stuck next rfl] at h
      cases h

theorem partsText_of_firstKey (start : readToken? cs = some (.openObject, cs₁))
    (h : (State.firstKey []).run cs₁ = some (w, rest)) : PartsText cs w rest := by
  obtain ⟨t, cs₂, first⟩ := State.exists_token_of_run h
  cases t with
  | closeObject =>
    rw [State.run_of_done first rfl] at h
    cases h
    exact .emptyObject start first
  | string k =>
    rw [State.run_of_more first rfl] at h
    obtain ⟨ms, rfl, members⟩ := exists_membersText first h
    exact .object start members
  | _ =>
    rw [State.run_of_stuck first rfl] at h
    cases h

theorem partsText_of_firstItem (start : readToken? cs = some (.openArray, cs₁))
    (h : (State.firstItem []).run cs₁ = some (w, rest)) : PartsText cs w rest := by
  obtain ⟨t, cs₂, first⟩ := State.exists_token_of_run h
  by_cases close : t = .closeArray
  · subst close
    rw [State.run_of_done first rfl] at h
    cases h
    exact .emptyArray start first
  · -- Any other token begins an item as it begins a value.
    have alike : (State.firstItem []).run cs₁ = (State.value [.items []]).run cs₁ :=
      State.run_congr first (State.starts_firstItem [] t close)
    rw [alike, State.run_value] at h
    obtain ⟨⟨v, cs₃⟩, value, h⟩ := Option.bind_eq_some_iff.mp h
    obtain ⟨ws, rfl, others⟩ := exists_itemsText h
    exact .array start value others

/-- A text that begins with a value begins with the texts of its parts. -/
theorem partsText_of_read? (h : Written.read? cs = some (w, rest)) : PartsText cs w rest := by
  obtain ⟨t, cs₁, start⟩ := State.exists_token_of_run h
  rw [Written.read?] at h
  cases t with
  | openObject =>
    rw [State.run_of_more start rfl] at h
    exact partsText_of_firstKey start h
  | openArray =>
    rw [State.run_of_more start rfl] at h
    exact partsText_of_firstItem start h
  | string ps =>
    rw [State.run_of_done start rfl] at h
    cases h
    exact .string start
  | scalar v =>
    rw [State.run_of_done start rfl] at h
    cases h
    exact .scalar start
  | _ =>
    rw [State.run_of_stuck start rfl] at h
    cases h

/-- No value begins with a closing bracket. -/
theorem exists_token_of_read? (h : Written.read? cs = some (w, rest)) :
    ∃ t r, readToken? cs = some (t, r) ∧ t ≠ .closeArray := by
  obtain ⟨t, r, token⟩ := State.exists_token_of_run h
  refine ⟨t, r, token, ?_⟩
  rintro rfl
  rw [Written.read?, State.run_of_stuck token rfl] at h
  cases h

/-- Words and numbers have no parts. -/
theorem closed_of_scalar (h : readToken? cs = some (.scalar w, rest)) : w.closed = false := by
  unfold readToken? at h
  split at h
  case h_7 =>
    obtain ⟨p, -, made⟩ := Option.map_eq_some_iff.mp h
    cases made
  case h_11 =>
    obtain ⟨p, -, made⟩ := Option.map_eq_some_iff.mp h
    cases made
    rfl
  all_goals
    cases h
    try rfl

end Parts

mutual

theorem Written.flaw?_eq_none_iff (levels : Nat) (w : Written) :
    w.flaw? levels = none ↔ (w.decode? levels).isSome = true := by
  cases w with
  | null | bool b => simp [Written.flaw?, Written.decode?]
  | number n => cases h : n.decode? <;> simp [Written.flaw?, Written.decode?, h]
  | string ps => cases h : decodeString? ps <;> simp [Written.flaw?, Written.decode?, h]
  | array ws =>
    cases levels with
    | zero => simp [Written.flaw?, Written.decode?]
    | succ levels =>
      rw [Written.flaw?, Written.decode?, Option.isSome_map]
      exact itemsFlaw?_eq_none_iff levels 0 ws
  | object ms =>
    cases levels with
    | zero => simp [Written.flaw?, Written.decode?]
    | succ levels =>
      rw [Written.flaw?, Written.decode?, Option.isSome_map]
      exact membersFlaw?_eq_none_iff levels ms

theorem itemsFlaw?_eq_none_iff (levels i : Nat) (ws : List Written) :
    itemsFlaw? levels i ws = none ↔ (decodeItems? levels ws).isSome = true := by
  cases ws with
  | nil => simp [itemsFlaw?, decodeItems?]
  | cons w ws =>
    rw [itemsFlaw?, decodeItems?, Option.or_eq_none_iff, Option.map_eq_none_iff,
      Written.flaw?_eq_none_iff levels w, itemsFlaw?_eq_none_iff levels (i + 1) ws]
    cases w.decode? levels <;> simp

theorem membersFlaw?_eq_none_iff (levels : Nat) (ms : List (List Piece × Written)) :
    membersFlaw? levels ms = none ↔ (decodeMembers? levels ms).isSome = true := by
  cases ms with
  | nil => simp [membersFlaw?, decodeMembers?]
  | cons m ms =>
    obtain ⟨k, w⟩ := m
    rw [membersFlaw?, decodeMembers?]
    cases decodeString? k with
    | none => simp
    | some k =>
      dsimp only [Option.bind_some]
      rw [Option.or_eq_none_iff, Option.map_eq_none_iff, Written.flaw?_eq_none_iff levels w,
        membersFlaw?_eq_none_iff levels ms]
      cases w.decode? levels <;> simp

end

end Entitlements.Json
