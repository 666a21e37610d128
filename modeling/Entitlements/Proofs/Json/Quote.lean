import Entitlements.Json.Printer
import Entitlements.Json.Reader

set_option autoImplicit false

/-!
Quoted strings. What is printed in quotes is read back with the text behind it, so a printed text
tells which string it starts with.
-/

namespace Entitlements.Json

/-- A unit below the surrogates is a character by itself. -/
theorem decodePieces?_unit {u : Nat} (small : u < 0xd800) (ps : List Piece) :
    decodePieces? (.unit u :: ps) = (decodePieces? ps).map (.ofNat u :: ·) := by
  have high : highSurrogate u = false := by simp [highSurrogate]; omega
  have low : lowSurrogate u = false := by simp [lowSurrogate]; omega
  cases ps with
  | nil => simp [decodePieces?, high, low]
  | cons p ps => cases p <;> simp [decodePieces?, high, low]

theorem unit?_hexDigit {n : Nat} (h : n < 0x20) :
    unit? '0' '0' (hexDigit (n / 16)) (hexDigit (n % 16)) = some n := by
  revert n
  decide

theorem readPieces?_escape {e c : Char} (h : unescape? e = some c) (short : e ≠ 'u')
    (r : List Char) : readPieces? ('\\' :: e :: r) =
      (readPieces? r).map fun (ps, r) => (.char c :: ps, r) := by
  rw [readPieces?, h]
  · rfl
  · rintro _ _ _ _ _ rfl _
    exact short rfl

theorem readPieces?_char {c : Char} (noQuote : c ≠ '"') (visible : ¬ c.toNat < 0x20)
    (noSlash : c ≠ '\\') (r : List Char) :
    readPieces? (c :: r) = (readPieces? r).map fun (ps, r) => (.char c :: ps, r) := by
  rw [readPieces?, if_neg (not_or.mpr ⟨visible, noSlash⟩)]
  · exact noQuote
  · exact fun _ _ _ _ _ mark _ => noSlash mark
  · exact fun _ _ mark _ => noSlash mark

/-- A printed character is one piece of a string, and this piece is the character. -/
theorem exists_piece (c : Char) : ∃ p,
    (∀ r, readPieces? (escapeChar c ++ r) =
      (readPieces? r).map fun (ps, r) => (p :: ps, r)) ∧
    ∀ ps, decodePieces? (p :: ps) = (decodePieces? ps).map (c :: ·) := by
  unfold escapeChar
  split
  · exact ⟨.char '"', readPieces?_escape rfl (by decide), fun ps => rfl⟩
  · exact ⟨.char '\\', readPieces?_escape rfl (by decide), fun ps => rfl⟩
  · exact ⟨.char '\x08', readPieces?_escape rfl (by decide), fun ps => rfl⟩
  · exact ⟨.char '\x0c', readPieces?_escape rfl (by decide), fun ps => rfl⟩
  · exact ⟨.char '\n', readPieces?_escape rfl (by decide), fun ps => rfl⟩
  · exact ⟨.char '\r', readPieces?_escape rfl (by decide), fun ps => rfl⟩
  · exact ⟨.char '\t', readPieces?_escape rfl (by decide), fun ps => rfl⟩
  split
  · rename_i control
    refine ⟨.unit c.toNat, fun r => ?_, fun ps => ?_⟩
    · simp [readPieces?, unit?_hexDigit control]
    · rw [decodePieces?_unit (by omega), Char.ofNat_toNat]
  · rename_i noQuote noSlash _ _ _ _ _ visible
    refine ⟨.char c, fun r => ?_, fun ps => rfl⟩
    exact readPieces?_char noQuote visible noSlash r

theorem exists_pieces (cs : List Char) : ∃ ps, decodePieces? ps = some cs ∧
    ∀ rest, readPieces? (cs.flatMap escapeChar ++ '"' :: rest) = some (ps, rest) := by
  induction cs with
  | nil => exact ⟨[], rfl, fun rest => by simp [readPieces?]⟩
  | cons c cs ih =>
    obtain ⟨ps, decoded, read⟩ := ih
    obtain ⟨p, readOne, decodedOne⟩ := exists_piece c
    refine ⟨p :: ps, ?_, fun rest => ?_⟩
    · rw [decodedOne, decoded]
      rfl
    · rw [List.flatMap_cons, List.append_assoc, readOne, read]
      rfl

theorem quote_append_inj {s t : String} {rest rest' : List Char}
    (same : quote s ++ rest = quote t ++ rest') : s = t ∧ rest = rest' := by
  have tail : s.toList.flatMap escapeChar ++ '"' :: rest =
      t.toList.flatMap escapeChar ++ '"' :: rest' := by simpa [quote] using same
  obtain ⟨ps, decoded, read⟩ := exists_pieces s.toList
  obtain ⟨ps', decoded', read'⟩ := exists_pieces t.toList
  have parts := read rest
  rw [tail, read'] at parts
  obtain ⟨rfl, rfl⟩ := Prod.mk.inj (Option.some.inj parts)
  rw [decoded'] at decoded
  exact ⟨String.ext (Option.some.inj decoded).symm, rfl⟩

/-- The text of an object tells a string that comes first. -/
theorem first_of_render {k s t : String} {m m' : String × Json} {ms ms' : List (String × Json)}
    (same : (Json.object ((k, .string s) :: m :: ms)).render =
      (Json.object ((k, .string t) :: m' :: ms')).render) : s = t := by
  have text := String.ofList_injective same
  simp only [print, printMembers, List.cons_append, List.append_assoc, List.cons.injEq,
    true_and] at text
  exact (quote_append_inj (List.cons.inj (quote_append_inj text).2).2).1

end Entitlements.Json
