import Entitlements.Proofs.Json.Quote

set_option autoImplicit false

/-!
Where values end. A number goes on as long as it can, so its reader looks at the character behind it;
all other tokens end by themselves. So a text tells its first value alike whatever stands behind it,
when this value is a string, an array or an object.
-/

namespace Entitlements.Json
open Decimal (digit)
variable {α β : Type}

/-- What is read is a part of the text in front of the rest, and it is read from that part whenever
the rest begins with the same character. -/
def LooksAhead (read : List Char → Option (α × List Char)) : Prop :=
  ∀ (cs rest : List Char) (a : α), read cs = some (a, rest) →
    ∃ used, cs = used ++ rest ∧
      ∀ rest', rest'.head? = rest.head? → read (used ++ rest') = some (a, rest')

theorem head?_append_congr {xs ys : List Char} (same : ys.head? = xs.head?) (used : List Char) :
    (used ++ ys).head? = (used ++ xs).head? := by
  rw [List.head?_append, List.head?_append, same]

namespace LooksAhead

theorem none : LooksAhead fun _ => (Option.none : Option (α × List Char)) := by
  intro cs rest a h
  cases h

theorem pure (a : α) : LooksAhead fun cs => some (a, cs) := by
  intro cs rest b h
  obtain ⟨rfl, rfl⟩ := Prod.mk.inj (Option.some.inj h)
  exact ⟨[], rfl, fun rest' _ => rfl⟩

theorem bind {read : List Char → Option (α × List Char)}
    {next : α → List Char → Option (β × List Char)} (first : LooksAhead read)
    (second : ∀ a, LooksAhead (next a)) :
    LooksAhead fun cs => (read cs).bind fun p => next p.1 p.2 := by
  intro cs rest b h
  obtain ⟨⟨a, r⟩, one, two⟩ := Option.bind_eq_some_iff.mp h
  obtain ⟨used, rfl, again⟩ := first _ _ _ one
  obtain ⟨used', rfl, again'⟩ := second a _ _ _ two
  refine ⟨used ++ used', (List.append_assoc used used' rest).symm, fun rest' same => ?_⟩
  rw [List.append_assoc]
  exact Option.bind_eq_some_iff.mpr
    ⟨_, again _ (head?_append_congr same used'), again' rest' same⟩

theorem map {read : List Char → Option (α × List Char)} (h : LooksAhead read) (f : α → β) :
    LooksAhead fun cs => (read cs).map fun p => (f p.1, p.2) := by
  intro cs rest b done
  obtain ⟨⟨a, r⟩, one, made⟩ := Option.map_eq_some_iff.mp done
  obtain ⟨rfl, rfl⟩ := Prod.mk.inj made
  obtain ⟨used, rfl, again⟩ := h _ _ _ one
  refine ⟨used, rfl, fun rest' same => ?_⟩
  exact Option.map_eq_some_iff.mpr ⟨_, again rest' same, rfl⟩

/-- A part that is told by its first character and may be missing. -/
theorem optional {read : List Char → Option (α × List Char)} (mark : Char → Prop) (a : α)
    (missing : ∀ cs, (∀ c ∈ cs.head?, ¬ mark c) → read cs = some (a, cs))
    (there : ∀ c, mark c → LooksAhead fun cs => read (c :: cs)) : LooksAhead read := by
  intro cs rest b h
  by_cases marked : ∀ c ∈ cs.head?, ¬ mark c
  · rw [missing cs marked] at h
    obtain ⟨rfl, rfl⟩ := Prod.mk.inj (Option.some.inj h)
    exact ⟨[], rfl, fun rest' same => missing rest' (same ▸ marked)⟩
  · cases cs with
    | nil => exact absurd (by simp) marked
    | cons c cs =>
      obtain ⟨used, rfl, again⟩ := there c (by simpa using marked) _ _ _ h
      exact ⟨c :: used, rfl, again⟩

end LooksAhead

theorem readDigits?_append {ds rest : List Char} (nonempty : ds ≠ [])
    (digits : ∀ d ∈ ds, digit d = true) (stop : ∀ c ∈ rest.head?, digit c = false) :
    readDigits? (ds ++ rest) = some (ds, rest) := by
  have ended : rest.takeWhile digit = [] ∧ rest.dropWhile digit = rest := by
    cases rest with
    | nil => exact ⟨rfl, rfl⟩
    | cons c cs => simp [stop c rfl]
  have run : (ds ++ rest).takeWhile digit = ds := by
    rw [List.takeWhile_append_of_pos digits, ended.1, List.append_nil]
  rw [readDigits?, run, List.dropWhile_append_of_pos digits, ended.2]
  cases ds with
  | nil => exact absurd rfl nonempty
  | cons d ds => rfl

theorem looksAhead_readDigits? : LooksAhead readDigits? := by
  intro cs rest ds h
  have parts := List.takeWhile_append_dropWhile (p := digit) (l := cs)
  have digits : ∀ d ∈ cs.takeWhile digit, digit d = true :=
    List.all_eq_true.mp List.all_takeWhile
  have stop := List.head?_dropWhile_not digit cs
  unfold readDigits? at h
  split at h
  · cases h
  · rename_i nonempty
    obtain ⟨rfl, rfl⟩ := Prod.mk.inj (Option.some.inj h)
    refine ⟨_, parts.symm, fun rest' same => readDigits?_append nonempty digits fun c hc => ?_⟩
    rw [same] at hc
    rw [hc] at stop
    exact stop

theorem looksAhead_readFraction? : LooksAhead readFraction? := by
  apply LooksAhead.optional (· = '.') none
  · intro cs other
    cases cs with
    | nil => rfl
    | cons c cs =>
      rw [readFraction?]
      rintro r parts
      exact other c rfl (List.cons.inj parts).1
  · rintro c rfl
    exact looksAhead_readDigits?.map some

theorem looksAhead_readSign : LooksAhead fun cs => some (readSign cs) := by
  apply LooksAhead.optional (fun c => c = '-' ∨ c = '+') false
  · intro cs other
    cases cs with
    | nil => rfl
    | cons c cs =>
      rw [readSign]
      · rintro r parts
        exact other c rfl (.inl (List.cons.inj parts).1)
      · rintro r parts
        exact other c rfl (.inr (List.cons.inj parts).1)
  · rintro c (rfl | rfl)
    · exact .pure true
    · exact .pure false

theorem looksAhead_readExponent? : LooksAhead readExponent? := by
  apply LooksAhead.optional (fun c => c = 'e' ∨ c = 'E') none
  · intro cs other
    cases cs with
    | nil => rfl
    | cons c cs => exact if_neg (other c rfl)
  · intro c marked
    have power : (fun cs => readExponent? (c :: cs)) = fun cs => (some (readSign cs)).bind fun p =>
        (readDigits? p.2).map fun q => (some (p.1, q.1), q.2) :=
      funext fun cs => if_pos marked
    rw [power]
    exact looksAhead_readSign.bind fun negative => looksAhead_readDigits?.map fun ds => some (negative, ds)

theorem looksAhead_readUnsigned? (negative : Bool) : LooksAhead (readUnsigned? negative) := by
  have behind (whole : List Char) : LooksAhead fun cs =>
      if whole.head? = some '0' ∧ 1 < whole.length then none
      else (readFraction? cs).bind fun p => (readExponent? p.2).map fun q =>
        (Numeral.mk negative whole p.1 q.1, q.2) := by
    split
    · exact .none
    · exact looksAhead_readFraction?.bind fun fraction => looksAhead_readExponent?.map _
  exact looksAhead_readDigits?.bind behind

/-- A minus in front of a number. -/
def readMinus : List Char → Bool × List Char
  | '-' :: rest => (true, rest)
  | cs => (false, cs)

theorem looksAhead_readMinus : LooksAhead fun cs => some (readMinus cs) := by
  apply LooksAhead.optional (· = '-') false
  · intro cs other
    cases cs with
    | nil => rfl
    | cons c cs =>
      rw [readMinus]
      rintro r parts
      exact other c rfl (List.cons.inj parts).1
  · rintro c rfl
    exact .pure true

theorem readNumeral?_eq (cs : List Char) :
    readNumeral? cs = readUnsigned? (readMinus cs).1 (readMinus cs).2 := by
  fun_cases readMinus cs with
  | case1 rest => rfl
  | case2 cs other =>
    rw [readNumeral?]
    exact other

theorem looksAhead_readNumeral? : LooksAhead readNumeral? := by
  have parts : readNumeral? =
      fun cs => (some (readMinus cs)).bind fun p => readUnsigned? p.1 p.2 :=
    funext readNumeral?_eq
  rw [parts]
  exact looksAhead_readMinus.bind looksAhead_readUnsigned?

/-- A string ends with its closing quote. -/
theorem readPieces?_ends {cs rest : List Char} {ps : List Piece}
    (h : readPieces? cs = some (ps, rest)) :
    ∃ used, cs = used ++ rest ∧ ∀ rest', readPieces? (used ++ rest') = some (ps, rest') := by
  fun_induction readPieces? cs generalizing ps rest with
  | case1 r =>
    obtain ⟨rfl, rfl⟩ := Prod.mk.inj (Option.some.inj h)
    exact ⟨['"'], rfl, fun rest' => rfl⟩
  | case2 a b c d r ih =>
    obtain ⟨u, unit, h⟩ := Option.bind_eq_some_iff.mp h
    obtain ⟨⟨qs, r'⟩, read, made⟩ := Option.map_eq_some_iff.mp h
    obtain ⟨rfl, rfl⟩ := Prod.mk.inj made
    obtain ⟨used, rfl, again⟩ := ih read
    refine ⟨'\\' :: 'u' :: a :: b :: c :: d :: used, rfl, fun rest' => ?_⟩
    simp [readPieces?, unit, again]
  | case3 c r other ih =>
    obtain ⟨e, escape, h⟩ := Option.bind_eq_some_iff.mp h
    obtain ⟨⟨qs, r'⟩, read, made⟩ := Option.map_eq_some_iff.mp h
    obtain ⟨rfl, rfl⟩ := Prod.mk.inj made
    obtain ⟨used, rfl, again⟩ := ih read
    refine ⟨'\\' :: c :: used, rfl, fun rest' => ?_⟩
    have short : c ≠ 'u' := by
      rintro rfl
      cases escape
    simp [readPieces?_escape escape short, again]
  | case4 c r noQuote noUnit noEscape bad => cases h
  | case5 c r noQuote noUnit noEscape visible ih =>
    obtain ⟨⟨qs, r'⟩, read, made⟩ := Option.map_eq_some_iff.mp h
    obtain ⟨rfl, rfl⟩ := Prod.mk.inj made
    obtain ⟨used, rfl, again⟩ := ih read
    refine ⟨c :: used, rfl, fun rest' => ?_⟩
    rw [List.cons_append, readPieces?_char noQuote (not_or.mp visible).1 (not_or.mp visible).2, again]
    rfl
  | case6 => cases h

/-- Values that end by themselves. -/
def Written.closed : Written → Bool
  | .string _ | .array _ | .object _ => true
  | .null | .bool _ | .number _ => false

def Token.closed : Token → Bool
  | .scalar w => w.closed
  | _ => true

theorem readToken?_spaces {spaces : List Char} (h : ∀ c ∈ spaces, space c = true) (cs : List Char) :
    readToken? (spaces ++ cs) = readToken? cs := by
  unfold readToken?
  rw [List.dropWhile_append_of_pos h]

theorem head_of_readNumeral? {c : Char} {cs rest : List Char} {n : Numeral}
    (h : readNumeral? (c :: cs) = some (n, rest)) : c = '-' ∨ digit c = true := by
  by_cases minus : c = '-'
  · exact .inl minus
  · right
    have plain : readMinus (c :: cs) = (false, c :: cs) := by
      rw [readMinus]
      rintro r parts
      exact minus (List.cons.inj parts).1
    rw [readNumeral?_eq, plain] at h
    obtain ⟨⟨whole, r⟩, first, -⟩ := Option.bind_eq_some_iff.mp h
    by_cases digits : digit c = true
    · exact digits
    · rw [readDigits?, List.takeWhile_cons_of_neg digits] at first
      cases first

/-- What a number begins with begins no other token. -/
theorem readToken?_numeral {c : Char} {cs rest : List Char} {n : Numeral}
    (h : readNumeral? (c :: cs) = some (n, rest)) :
    readToken? (c :: cs) = some (.scalar (.number n), rest) := by
  have mark := head_of_readNumeral? h
  have visible : ¬ space c = true := by
    intro blank
    simp only [space, Bool.or_eq_true, beq_iff_eq] at blank
    rcases blank with ((rfl | rfl) | rfl) | rfl <;> exact absurd mark (by decide)
  unfold readToken?
  rw [List.dropWhile_cons_of_neg visible]
  split
  case h_11 =>
    rw [h]
    rfl
  all_goals
    rename_i front
    obtain ⟨rfl, -⟩ := List.cons.inj front
    exact absurd mark (by decide)

theorem readToken?_ends {cs rest : List Char} {t : Token}
    (h : readToken? cs = some (t, rest)) :
    ∃ used, used ≠ [] ∧ cs = used ++ rest ∧
      ∀ rest', t.closed = true ∨ rest'.head? = rest.head? →
        readToken? (used ++ rest') = some (t, rest') := by
  -- Spaces in front of a token go with it.
  have behind (used : List Char) (nonempty : used ≠ []) (parts : cs.dropWhile space = used ++ rest)
      (again : ∀ rest', t.closed = true ∨ rest'.head? = rest.head? →
        readToken? (used ++ rest') = some (t, rest')) :
      ∃ used, used ≠ [] ∧ cs = used ++ rest ∧
        ∀ rest', t.closed = true ∨ rest'.head? = rest.head? →
          readToken? (used ++ rest') = some (t, rest') := by
    refine ⟨cs.takeWhile space ++ used, by simp [nonempty], ?_, fun rest' same => ?_⟩
    · rw [List.append_assoc, ← parts, List.takeWhile_append_dropWhile]
    · rw [List.append_assoc, readToken?_spaces (List.all_eq_true.mp List.all_takeWhile)]
      exact again rest' same
  unfold readToken? at h
  split at h
  case h_7 r front =>
    obtain ⟨⟨ps, r'⟩, read, made⟩ := Option.map_eq_some_iff.mp h
    obtain ⟨rfl, rfl⟩ := Prod.mk.inj made
    obtain ⟨used, rfl, again⟩ := readPieces?_ends read
    refine behind ('"' :: used) (List.cons_ne_nil _ _) front fun rest' _ => ?_
    change (readPieces? (used ++ rest')).map _ = _
    rw [again]
    rfl
  case h_11 =>
    obtain ⟨⟨n, r'⟩, read, made⟩ := Option.map_eq_some_iff.mp h
    obtain ⟨rfl, rfl⟩ := Prod.mk.inj made
    obtain ⟨used, parts, again⟩ := looksAhead_readNumeral? _ _ _ read
    have shorter := length_of_readNumeral? read
    cases used with
    | nil => simp [parts] at shorter
    | cons c used =>
      refine behind (c :: used) (List.cons_ne_nil _ _) parts fun rest' same => ?_
      exact readToken?_numeral (again rest' (same.resolve_left (by simp [Token.closed, Written.closed])))
  all_goals
    rename_i r front
    obtain ⟨rfl, rfl⟩ := Prod.mk.inj (Option.some.inj h)
  · exact behind ['['] (List.cons_ne_nil _ _) front fun _ _ => rfl
  · exact behind [']'] (List.cons_ne_nil _ _) front fun _ _ => rfl
  · exact behind ['{'] (List.cons_ne_nil _ _) front fun _ _ => rfl
  · exact behind ['}'] (List.cons_ne_nil _ _) front fun _ _ => rfl
  · exact behind [','] (List.cons_ne_nil _ _) front fun _ _ => rfl
  · exact behind [':'] (List.cons_ne_nil _ _) front fun _ _ => rfl
  · exact behind ['n', 'u', 'l', 'l'] (List.cons_ne_nil _ _) front fun _ _ => rfl
  · exact behind ['t', 'r', 'u', 'e'] (List.cons_ne_nil _ _) front fun _ _ => rfl
  · exact behind ['f', 'a', 'l', 's', 'e'] (List.cons_ne_nil _ _) front fun _ _ => rfl

namespace State
variable {s s' : State} {t : Token} {cs rest : List Char} {w : Written}

theorem run_of_done (read : readToken? cs = some (t, rest)) (done : s.step t = some (.inl w)) :
    s.run cs = some (w, rest) := by
  rw [run]
  split <;> simp_all

theorem run_of_more (read : readToken? cs = some (t, rest)) (more : s.step t = some (.inr s')) :
    s.run cs = s'.run rest := by
  rw [run]
  split <;> simp_all

/-- A value that ends by itself is finished by a token that does. -/
theorem closed_of_step (done : s.step t = some (.inl w)) (closed : w.closed = true) :
    t.closed = true := by
  cases t with
  | scalar v =>
    cases s with
    | value stack =>
      cases stack with
      | nil =>
        cases done
        exact closed
      | cons frame stack => cases frame <;> cases done
    | firstItem stack => cases done
    | _ => cases done
  | _ => rfl

/-- By induction on the run: behind a token that is not the last one stands the next token, so the
character behind it stays the same. -/
theorem run_ends (h : s.run cs = some (w, rest)) :
    ∃ used, used ≠ [] ∧ cs = used ++ rest ∧
      ∀ rest', w.closed = true ∨ rest'.head? = rest.head? →
        s.run (used ++ rest') = some (w, rest') := by
  fun_induction run s cs with
  | case1 | case2 => cases h
  | case3 s cs t r read v done =>
    obtain ⟨rfl, rfl⟩ := Prod.mk.inj (Option.some.inj h)
    obtain ⟨used, nonempty, parts, again⟩ := readToken?_ends read
    refine ⟨used, nonempty, parts, fun rest' same => run_of_done (again rest' ?_) done⟩
    exact same.imp_left (closed_of_step done)
  | case4 s cs t r read s' more ih =>
    obtain ⟨used, nonempty, parts, again⟩ := readToken?_ends read
    obtain ⟨used', nonempty', rfl, again'⟩ := ih h
    refine ⟨used ++ used', by simp [nonempty], by rw [parts, List.append_assoc],
      fun rest' same => ?_⟩
    have next : (used' ++ rest').head? = (used' ++ rest).head? := by
      obtain ⟨c, used', rfl⟩ := List.exists_cons_of_ne_nil nonempty'
      rfl
    rw [List.append_assoc, run_of_more (again _ (.inr next)) more]
    exact again' rest' same

end State

/-- A first value that ends by itself is the same whatever stands behind it. -/
theorem read?_ends {cs rest : List Char} {w : Written} (h : Written.read? cs = some (w, rest))
    (closed : w.closed = true) :
    ∃ used, cs = used ++ rest ∧ ∀ rest', Written.read? (used ++ rest') = some (w, rest') := by
  obtain ⟨used, -, parts, again⟩ := State.run_ends h
  exact ⟨used, parts, fun rest' => again rest' (.inl closed)⟩

end Entitlements.Json
