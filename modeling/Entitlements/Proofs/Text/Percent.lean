import Entitlements.Proofs.Text.Utf8
import Entitlements.Text.Form
import Mathlib.Data.List.Basic

set_option autoImplicit false

/-!
Escapes read back. Text that is escaped has none of the marks that part an address, so it stands in
any place of one and comes back from there.
-/

namespace Entitlements.Text

theorem hexByte?_percentDigit {n : UInt8} (h : n < 16) : hexByte? (percentDigit n) = some n := by
  rw [UInt8.lt_iff_toNat_lt] at h
  have all : ∀ m < 16, hexByte? (percentDigit (.ofNat m)) = some (.ofNat m) := by decide
  simpa using all n.toNat h

theorem digits_lt (b : UInt8) : b / 16 < 16 ∧ b % 16 < 16 := by
  have value := b.toNat_lt
  rw [UInt8.lt_iff_toNat_lt, UInt8.lt_iff_toNat_lt, UInt8.toNat_div, UInt8.toNat_mod]
  simp
  omega

theorem percentByte?_escape (b : UInt8) :
    percentByte? (percentDigit (b / 16)) (percentDigit (b % 16)) = some b := by
  obtain ⟨high, low⟩ := digits_lt b
  have whole : b / 16 * 16 + b % 16 = b := by
    have value := b.toNat_lt
    rw [← UInt8.toNat_inj, UInt8.toNat_add, UInt8.toNat_mul, UInt8.toNat_div, UInt8.toNat_mod]
    simp
    omega
  rw [percentByte?, hexByte?_percentDigit high, hexByte?_percentDigit low]
  exact congrArg some whole

theorem percentDecode_escape (b : UInt8) (rest : List UInt8) :
    percentDecode (percentEscape b ++ rest) = b :: percentDecode rest := by
  simp only [percentEscape, List.cons_append, List.nil_append]
  rw [percentDecode, percentByte?_escape]

theorem percentDecode_cons {b : UInt8} (plain : b ≠ 0x25) (rest : List UInt8) :
    percentDecode (b :: rest) = b :: percentDecode rest := by
  rw [percentDecode]
  intro _ _ _ mark
  exact absurd mark plain

theorem percentDecode_percentEncodeReserved (bs : List UInt8) :
    percentDecode (percentEncodeReserved bs) = bs := by
  induction bs with
  | nil => rfl
  | cons b bs ih =>
    unfold percentEncodeReserved at ih ⊢
    rw [List.flatMap_cons]
    split
    · rename_i plain
      have unmarked : b ≠ 0x25 := by
        rintro rfl
        exact absurd plain (by decide)
      rw [List.singleton_append, percentDecode_cons unmarked, ih]
    · rw [percentDecode_escape, ih]

theorem unreserved_percentDigit {n : UInt8} (h : n < 16) : unreserved (percentDigit n) = true := by
  rw [UInt8.lt_iff_toNat_lt] at h
  have all : ∀ m < 16, unreserved (percentDigit (.ofNat m)) = true := by decide
  simpa using all n.toNat h

theorem mem_percentEncodeReserved {bs : List UInt8} {c : UInt8}
    (h : c ∈ percentEncodeReserved bs) : unreserved c = true ∨ c = 0x25 := by
  obtain ⟨b, -, hc⟩ := List.mem_flatMap.mp h
  split at hc
  · rename_i plain
    rw [List.mem_singleton.mp hc]
    exact .inl plain
  · simp only [percentEscape, List.mem_cons, List.not_mem_nil, or_false] at hc
    rcases hc with rfl | rfl | rfl
    · exact .inr rfl
    · exact .inl (unreserved_percentDigit (digits_lt b).1)
    · exact .inl (unreserved_percentDigit (digits_lt b).2)

theorem lt_of_unreserved {c : UInt8} (h : unreserved c = true) : c.toNat < 128 := by
  simp only [unreserved, Bool.or_eq_true, Bool.and_eq_true, decide_eq_true_eq,
    UInt8.le_iff_toNat_le, List.contains_iff_mem, List.mem_cons, List.not_mem_nil,
    or_false, ← UInt8.toNat_inj] at h
  simp at h
  omega

/-- A text with escapes where they may be needed. -/
def escaped (s : String) : String :=
  .ofList ((percentEncodeReserved (utf8 s)).map fun b => .ofNat b.toNat)

theorem utf8EncodeChar_ofNat {b : UInt8} (h : b.toNat < 128) :
    String.utf8EncodeChar (.ofNat b.toNat) = [b] := by
  have value : (Char.ofNat b.toNat).val.toNat = b.toNat := by
    rw [Char.ofNat, dif_pos (.inl (by omega))]
    rfl
  simp only [String.utf8EncodeChar, value]
  rw [if_pos (by omega), UInt8.ofNat_toNat]

theorem utf8_escaped (s : String) : utf8 (escaped s) = percentEncodeReserved (utf8 s) := by
  have single (b : UInt8) (hb : b ∈ percentEncodeReserved (utf8 s)) :
      String.utf8EncodeChar (.ofNat b.toNat) = [b] := by
    apply utf8EncodeChar_ofNat
    rcases mem_percentEncodeReserved hb with plain | rfl
    · exact lt_of_unreserved plain
    · decide
  rw [utf8_eq_flatMap, escaped, String.toList_ofList, List.flatMap_map, List.flatMap_congr single,
    List.flatMap_singleton']

theorem mem_escaped {s : String} {b : UInt8} (h : b ∈ utf8 (escaped s)) :
    unreserved b = true ∨ b = 0x25 := mem_percentEncodeReserved (utf8_escaped s ▸ h)

theorem decodeUtf8?_escaped (s : String) :
    decodeUtf8? (percentDecode (utf8 (escaped s))) = some s := by
  rw [utf8_escaped, percentDecode_percentEncodeReserved, decodeUtf8?_utf8]

theorem formText_escaped (s : String) : formText (utf8 (escaped s)) = s := by
  have same : (utf8 (escaped s)).map (fun b => if b = 0x2b then 0x20 else b) =
      utf8 (escaped s) := by
    have kept : ∀ b ∈ utf8 (escaped s), (if b = 0x2b then 0x20 else b) = id b := by
      rintro b hb
      rw [if_neg, id]
      rintro rfl
      exact absurd (mem_escaped hb) (by decide)
    rw [List.map_congr_left kept, List.map_id]
  rw [formText, same, utf8_escaped, percentDecode_percentEncodeReserved, decodeLossy_utf8]

end Entitlements.Text
