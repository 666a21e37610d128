import Entitlements.Text.Utf8

set_option autoImplicit false

/-!
Reading what was written in UTF-8. Each character is found again from its bytes, whatever follows,
so a text comes back whole from either way of reading.
-/

namespace Entitlements.Text

theorem toNat_ofNat_of_lt {n : Nat} (h : n < 256) : (UInt8.ofNat n).toNat = n := by
  rw [UInt8.toNat_ofNat']
  exact Nat.mod_eq_of_lt h

theorem ofNat_lt_iff {n : Nat} (h : n < 256) (b : UInt8) : .ofNat n < b ↔ n < b.toNat := by
  rw [UInt8.lt_iff_toNat_lt, toNat_ofNat_of_lt h]

theorem ofNat_eq_iff {n : Nat} (h : n < 256) (b : UInt8) : .ofNat n = b ↔ n = b.toNat := by
  rw [← UInt8.toNat_inj, toNat_ofNat_of_lt h]

section First
variable {n : Nat}

theorem startChar_one (h : n < 128) : startChar (.ofNat n) = ([.ofNat n], none) := by
  have byte : n < 256 := by omega
  have first : UInt8.ofNat n < 0x80 := (ofNat_lt_iff byte _).mpr h
  rw [startChar, if_pos first, toNat_ofNat_of_lt byte]

theorem startChar_two (h : 194 ≤ n) (h' : n < 224) :
    startChar (.ofNat n) = ([], some ⟨n % 32, 1, 0x80, 0xbf⟩) := by
  have byte : n < 256 := by omega
  simp only [startChar, ofNat_lt_iff byte, toNat_ofNat_of_lt byte]
  rw [if_neg (by simp; omega), if_neg (by simp; omega), if_pos (by simpa using h')]

/-- The range of the second byte depends on the first one at either end of its own. -/
theorem startChar_three (h : 224 ≤ n) (h' : n < 240) :
    startChar (.ofNat n) = ([], some ⟨n % 16, 2, if n = 224 then 0xa0 else 0x80,
      if n = 237 then 0x9f else 0xbf⟩) := by
  have byte : n < 256 := by omega
  simp only [startChar, ofNat_lt_iff byte, ofNat_eq_iff byte, toNat_ofNat_of_lt byte]
  rw [if_neg (by simp; omega), if_neg (by simp; omega), if_neg (by simp; omega),
    if_pos (by simpa using h')]
  rfl

theorem startChar_four (h : 240 ≤ n) (h' : n < 245) :
    startChar (.ofNat n) = ([], some ⟨n % 8, 3, if n = 240 then 0x90 else 0x80,
      if n = 244 then 0x8f else 0xbf⟩) := by
  have byte : n < 256 := by omega
  simp only [startChar, ofNat_lt_iff byte, ofNat_eq_iff byte, toNat_ofNat_of_lt byte]
  rw [if_neg (by simp; omega), if_neg (by simp; omega), if_neg (by simp; omega),
    if_neg (by simp; omega), if_pos (by simpa using h')]
  rfl

end First

theorem decodeFrom_start {b : UInt8} {u : Unfinished} (h : startChar b = ([], some u))
    (bs : List UInt8) : decodeFrom none (b :: bs) = decodeFrom (some u) bs := by
  rw [decodeFrom, h]
  rfl

theorem decodeFrom_feed {u : Unfinished} {b : UInt8} {cs : List Char} {next : Option Unfinished}
    (h : u.feed? b = some (cs, next)) (bs : List UInt8) :
    decodeFrom (some u) (b :: bs) = cs ++ decodeFrom next bs := by
  rw [decodeFrom, h]

section Further
variable {code missing n : Nat} {low high : UInt8}

theorem ofNat_between (h : n < 64) (above : low.toNat ≤ n + 128) (below : n + 128 ≤ high.toNat) :
    low ≤ .ofNat (n + 128) ∧ .ofNat (n + 128) ≤ high := by
  rw [UInt8.le_iff_toNat_le, UInt8.le_iff_toNat_le, toNat_ofNat_of_lt (by omega)]
  exact ⟨above, below⟩

theorem decodeFrom_more (h : n < 64) (above : low.toNat ≤ n + 128) (below : n + 128 ≤ high.toNat)
    (bs : List UInt8) :
    decodeFrom (some ⟨code, missing + 2, low, high⟩) (.ofNat (n + 128) :: bs) =
      decodeFrom (some ⟨code * 64 + n, missing + 1, 0x80, 0xbf⟩) bs := by
  have value := toNat_ofNat_of_lt (n := n + 128) (by omega)
  have fed : Unfinished.feed? ⟨code, missing + 2, low, high⟩ (.ofNat (n + 128)) =
      some ([], some ⟨code * 64 + n, missing + 1, 0x80, 0xbf⟩) := by
    rw [Unfinished.feed?, if_pos (ofNat_between h above below), value, if_neg (by simp),
      show (n + 128) % 64 = n by omega]
    rfl
  exact decodeFrom_feed fed bs

theorem decodeFrom_last (h : n < 64) (bs : List UInt8) :
    decodeFrom (some ⟨code, 1, 0x80, 0xbf⟩) (.ofNat (n + 128) :: bs) =
      .ofNat (code * 64 + n) :: decodeFrom none bs := by
  have value := toNat_ofNat_of_lt (n := n + 128) (by omega)
  have fed : Unfinished.feed? ⟨code, 1, 0x80, 0xbf⟩ (.ofNat (n + 128)) =
      some ([.ofNat (code * 64 + n)], none) := by
    rw [Unfinished.feed?, if_pos (ofNat_between h (by simp) (by simp; omega)), value, if_pos rfl,
      show (n + 128) % 64 = n by omega]
  exact decodeFrom_feed fed bs

end Further

/-- A character is no surrogate. -/
theorem valid_toNat (c : Char) : c.toNat < 0xd800 ∨ 0xdfff < c.toNat ∧ c.toNat < 0x110000 :=
  c.valid

theorem ofNat_cons {n : Nat} {c : Char} (h : n = c.toNat) (cs : List Char) :
    .ofNat n :: cs = c :: cs := by
  rw [h, Char.ofNat_toNat]

/-- The cases are the lengths in which characters are written. -/
theorem decodeFrom_encodeChar (c : Char) (bs : List UInt8) :
    decodeFrom none (String.utf8EncodeChar c ++ bs) = c :: decodeFrom none bs := by
  have valid := valid_toNat c
  have code : c.val.toNat = c.toNat := rfl
  simp only [String.utf8EncodeChar, code]
  split
  · rw [List.singleton_append, decodeFrom, startChar_one (by omega)]
    exact ofNat_cons rfl _
  split
  · simp only [List.cons_append, List.nil_append]
    rw [decodeFrom_start (startChar_two (by omega) (by omega)), decodeFrom_last (by omega)]
    exact ofNat_cons (by omega) _
  split
  · simp only [List.cons_append, List.nil_append]
    rw [decodeFrom_start (startChar_three (by omega) (by omega)),
      decodeFrom_more (by omega) (by split <;> simp; omega) (by split <;> simp <;> omega),
      decodeFrom_last (by omega)]
    exact ofNat_cons (by omega) _
  · simp only [List.cons_append, List.nil_append]
    rw [decodeFrom_start (startChar_four (by omega) (by omega)),
      decodeFrom_more (by omega) (by split <;> simp; omega) (by split <;> simp <;> omega),
      decodeFrom_more (by omega) (by simp) (by simp; omega), decodeFrom_last (by omega)]
    exact ofNat_cons (by omega) _

theorem utf8_eq_flatMap (s : String) : utf8 s = s.toList.flatMap String.utf8EncodeChar := by
  rw [utf8, String.toUTF8_eq_toByteArray, ← String.utf8Encode_toList, List.utf8Encode,
    List.data_toByteArray]

theorem utf8_append (s t : String) : utf8 (s ++ t) = utf8 s ++ utf8 t := by
  simp only [utf8_eq_flatMap, String.toList_append, List.flatMap_append]

theorem decodeFrom_flatMap_encodeChar (cs : List Char) :
    decodeFrom none (cs.flatMap String.utf8EncodeChar) = cs := by
  induction cs with
  | nil => rfl
  | cons c cs ih => rw [List.flatMap_cons, decodeFrom_encodeChar, ih]

theorem decodeLossy_utf8 (s : String) : decodeLossy (utf8 s) = s := by
  rw [decodeLossy, utf8_eq_flatMap, decodeFrom_flatMap_encodeChar, String.ofList_toList]

theorem decodeUtf8?_utf8 (s : String) : decodeUtf8? (utf8 s) = some s := by
  rw [decodeUtf8?, utf8, Array.toArray_toList]
  exact dif_pos s.isValidUTF8

end Entitlements.Text
