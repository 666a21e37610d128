import Entitlements.Definition

set_option autoImplicit false

/-!
Definitions as they are read. A value without numbers, booleans and nulls is a definition, and no
other value is one. A key keeps its spelling as a name unless it is a number with zeros in front.
-/

namespace Entitlements

section Success
variable {ε ε' α β : Type} {x : Except ε α} {a : α} {b : β}

theorem exists_of_bind_eq_ok {f : α → Except ε β} (h : x >>= f = .ok b) :
    ∃ a, x = .ok a ∧ f a = .ok b := by
  cases x with
  | error e => cases h
  | ok a => exact ⟨a, rfl, h⟩

theorem exists_of_map_eq_ok {f : α → β} (h : x.map f = .ok b) : ∃ a, x = .ok a ∧ f a = b := by
  cases x with
  | error e => cases h
  | ok a => exact ⟨a, rfl, Except.ok.inj h⟩

theorem eq_ok_of_mapError {f : ε → ε'} (h : x.mapError f = .ok a) : x = .ok a := by
  cases x with
  | error e => cases h
  | ok a' => cases h; rfl

end Success

/-- A value without a number, boolean or null at any depth. -/
inductive Json.Textual : Json → Prop
  | string (s : String) : Textual (.string s)
  | array {vs : List Json} (items : ∀ v ∈ vs, Textual v) : Textual (.array vs)
  | object {ms : List (String × Json)} (members : ∀ m ∈ ms, Textual m.2) : Textual (.object ms)

namespace Definition

/-- The definition that a value is read as; an empty list where there is none. -/
def authored (v : Json) : Definition :=
  match ofJson v with
  | .ok d => d
  | .error _ => .list []

theorem authored_of_ok {v : Json} {d : Definition} (h : ofJson v = .ok d) : authored v = d := by
  rw [authored, h]

theorem ofItems_of_forall {vs : List Json} (read : ∀ v ∈ vs, ofJson v = .ok (authored v))
    (i : Nat) : ofItems i vs = .ok (vs.map authored) := by
  induction vs generalizing i with
  | nil => rfl
  | cons v vs ih =>
    obtain ⟨first, rest⟩ := List.forall_mem_cons.mp read
    rw [ofItems, first, ih rest (i + 1)]
    rfl

theorem ofMembers_of_forall {ms : List (String × Json)}
    (read : ∀ m ∈ ms, ofJson m.2 = .ok (authored m.2)) :
    ofMembers ms = .ok (ms.map fun m => (Key.ofString m.1, authored m.2)) := by
  induction ms with
  | nil => rfl
  | cons m ms ih =>
    obtain ⟨first, rest⟩ := List.forall_mem_cons.mp read
    rw [ofMembers, first, ih rest]
    rfl

theorem ofJson_array {vs : List Json} (read : ∀ v ∈ vs, ofJson v = .ok (authored v)) :
    ofJson (.array vs) = .ok (.list (vs.map authored)) := by
  rw [ofJson, ofItems_of_forall read]
  rfl

theorem ofJson_object {ms : List (String × Json)}
    (read : ∀ m ∈ ms, ofJson m.2 = .ok (authored m.2)) :
    ofJson (.object ms) = .ok (.mapping (ms.map fun m => (Key.ofString m.1, authored m.2))) := by
  rw [ofJson, ofMembers_of_forall read]
  rfl

theorem ofJson_of_textual {v : Json} (h : v.Textual) : ofJson v = .ok (authored v) := by
  induction h with
  | string s => rfl
  | array items ih =>
    have read := ofJson_array ih
    rw [authored_of_ok read, read]
  | object members ih =>
    have read := ofJson_object ih
    rw [authored_of_ok read, read]

mutual

theorem textual_of_ofJson : {v : Json} → {d : Definition} → ofJson v = .ok d → v.Textual
  | .string s, _, _ => .string s
  | .array _, _, h => by
    obtain ⟨ds, read, -⟩ := exists_of_map_eq_ok h
    exact .array (textual_of_ofItems read)
  | .object _, _, h => by
    obtain ⟨es, read, -⟩ := exists_of_map_eq_ok h
    exact .object (textual_of_ofMembers read)
  | .null, _, h | .bool _, _, h | .number _, _, h => nomatch h

theorem textual_of_ofItems : {i : Nat} → {vs : List Json} → {ds : List Definition} →
    ofItems i vs = .ok ds → ∀ v ∈ vs, v.Textual
  | _, [], _, _ => by simp
  | _, v :: vs, _, h => by
    obtain ⟨d, first, h⟩ := exists_of_bind_eq_ok h
    obtain ⟨ds, rest, -⟩ := exists_of_bind_eq_ok h
    exact List.forall_mem_cons.mpr
      ⟨textual_of_ofJson (eq_ok_of_mapError first), textual_of_ofItems rest⟩

theorem textual_of_ofMembers : {ms : List (String × Json)} → {es : List (Key × Definition)} →
    ofMembers ms = .ok es → ∀ m ∈ ms, m.2.Textual
  | [], _, _ => by simp
  | (k, v) :: ms, _, h => by
    obtain ⟨d, first, h⟩ := exists_of_bind_eq_ok h
    obtain ⟨es, rest, -⟩ := exists_of_bind_eq_ok h
    exact List.forall_mem_cons.mpr
      ⟨textual_of_ofJson (eq_ok_of_mapError first), textual_of_ofMembers rest⟩

end

/-- Definitions are read from textual values and from no others. -/
theorem ofJson_eq_ok_iff {v : Json} {d : Definition} :
    ofJson v = .ok d ↔ v.Textual ∧ d = authored v := by
  constructor
  · intro h
    exact ⟨textual_of_ofJson h, (authored_of_ok h).symm⟩
  · rintro ⟨textual, rfl⟩
    exact ofJson_of_textual textual

end Definition

namespace Decimal

/-- Digits without zeros in front; a zero that stands alone stays. -/
def unpadded : List Char → List Char
  | '0' :: d :: ds => unpadded (d :: ds)
  | ds => ds

/-- Whether a zero stands in front of another digit. -/
def padded : List Char → Bool
  | '0' :: _ :: _ => true
  | _ => false

theorem padded_unpadded (ds : List Char) : padded (unpadded ds) = false := by
  fun_induction unpadded ds with
  | case1 d ds ih => exact ih
  | case2 ds single =>
    unfold padded
    split
    · exact (single _ _ rfl).elim
    · rfl

theorem unpadded_eq_self_iff {ds : List Char} : unpadded ds = ds ↔ padded ds = false := by
  constructor
  · intro same
    rw [← same]
    exact padded_unpadded ds
  · intro plain
    unfold unpadded
    split
    · cases plain
    · rfl

theorem digit_iff (c : Char) : digit c = true ↔ 48 ≤ c.toNat ∧ c.toNat ≤ 57 := by
  rw [digit, Bool.and_eq_true, decide_eq_true_eq, decide_eq_true_eq, Char.le_def, Char.le_def]
  exact Iff.rfl

theorem digitValue_lt {c : Char} (h : digit c = true) : digitValue c < 10 := by
  have := (digit_iff c).mp h
  unfold digitValue
  omega

theorem digitChar_digitValue {c : Char} (h : digit c = true) : Nat.digitChar (digitValue c) = c := by
  have range := (digit_iff c).mp h
  apply Char.toNat_inj.mp
  rw [Nat.toNat_digitChar_of_lt_ten (digitValue_lt h), digitValue]
  omega

theorem toDigits_digitValue {c : Char} (h : digit c = true) :
    Nat.toDigits 10 (digitValue c) = [c] := by
  rw [Nat.toDigits_of_lt_base (digitValue_lt h), digitChar_digitValue h]

/-- Behind a number that is not zero, digits read on are digits written on. -/
theorem toDigits_foldl {n : Nat} (positive : 0 < n) {ds : List Char} (digits : ds.all digit = true) :
    Nat.toDigits 10 (ds.foldl (fun n d => n * 10 + digitValue d) n) = Nat.toDigits 10 n ++ ds := by
  induction ds generalizing n with
  | nil => simp
  | cons d ds ih =>
    rw [List.all_cons, Bool.and_eq_true] at digits
    have step : Nat.toDigits 10 (n * 10 + digitValue d) = Nat.toDigits 10 n ++ [d] := by
      rw [← toDigits_digitValue digits.1,
        Nat.toDigits_append_toDigits (by decide) positive (digitValue_lt digits.1), Nat.mul_comm]
    rw [List.foldl_cons, ih (by omega) digits.2, step, List.append_assoc, List.singleton_append]

theorem toDigits_value {ds : List Char} (nonempty : ds ≠ []) (digits : ds.all digit = true) :
    Nat.toDigits 10 (value ds) = unpadded ds := by
  fun_induction unpadded ds with
  | case1 d ds ih =>
    rw [List.all_cons, Bool.and_eq_true] at digits
    exact ih (List.cons_ne_nil d ds) digits.2
  | case2 ds single =>
    obtain ⟨d, ds, rfl⟩ := List.exists_cons_of_ne_nil nonempty
    rw [List.all_cons, Bool.and_eq_true] at digits
    rw [value, List.foldl_cons, Nat.zero_mul, Nat.zero_add]
    by_cases zero : digitValue d = 0
    · have mark : d = '0' := by rw [← digitChar_digitValue digits.1, zero]; rfl
      cases ds with
      | nil => rw [zero, mark]; rfl
      | cons e es => exact (single e es (mark ▸ rfl)).elim
    · rw [toDigits_foldl (Nat.pos_of_ne_zero zero) digits.2, toDigits_digitValue digits.1]
      rfl

end Decimal

namespace Definition.Key

/-- A key as a name: a number below `2 ^ 64` loses the zeros in front, all else stays as it is. -/
def respelled (s : String) : String :=
  if (index? s).isSome then .ofList (Decimal.unpadded s.toList) else s

/-- A number below `2 ^ 64` with a zero in front. -/
def padded (s : String) : Bool := (index? s).isSome && Decimal.padded s.toList

theorem toName_ofString (s : String) : (ofString s).toName = respelled s := by
  unfold ofString respelled
  cases found : index? s with
  | none => rfl
  | some n =>
    rw [index?, Decimal.below?, Option.ite_none_right_eq_some] at found
    obtain ⟨⟨nonempty, digits, -⟩, value⟩ := found
    rw [← Option.some.inj value, toName, Decimal.toDigits_value nonempty digits]
    rfl

theorem respelled_eq_self_iff {s : String} : respelled s = s ↔ padded s = false := by
  unfold respelled padded
  cases index? s with
  | none => simp
  | some n =>
    rw [Option.isSome_some, if_pos rfl, Bool.true_and, ← Decimal.unpadded_eq_self_iff,
      ← String.toList_inj, String.toList_ofList]

theorem padded_respelled (s : String) : padded (respelled s) = false := by
  cases found : index? s with
  | none => simp [respelled, padded, found]
  | some n => simp [respelled, padded, found, Decimal.padded_unpadded]

end Definition.Key

end Entitlements
