import Entitlements.Proofs.Text.Percent
import Entitlements.Web.Request
import Mathlib.Data.List.TakeWhile

set_option autoImplicit false

/-!
Targets written from a path and the fields of a query, with escapes where they may be needed. A
request reads both again, whatever characters they are made of.
-/

namespace Entitlements

namespace Text
variable {sep : UInt8} {bs : List UInt8}

theorem splitBytes_of_notMem (whole : sep ∉ bs) : splitBytes sep bs = [bs] := by
  induction bs with
  | nil => rfl
  | cons b bs ih =>
    obtain ⟨other, whole⟩ := not_or.mp (List.mem_cons.not.mp whole)
    rw [splitBytes, if_neg (Ne.symm other), ih whole]

theorem splitBytes_append (whole : sep ∉ bs) (rest : List UInt8) :
    splitBytes sep (bs ++ sep :: rest) = bs :: splitBytes sep rest := by
  induction bs with
  | nil => rw [List.nil_append, splitBytes, if_pos rfl]
  | cons b bs ih =>
    obtain ⟨other, whole⟩ := not_or.mp (List.mem_cons.not.mp whole)
    rw [List.cons_append, splitBytes, if_neg (Ne.symm other), ih whole]

theorem cutBytes_of_notMem (whole : sep ∉ bs) : cutBytes sep bs = (bs, []) := by
  have all : ∀ b ∈ bs, (b != sep) = true := by grind
  rw [cutBytes, List.takeWhile_eq_self_iff.mpr all, List.dropWhile_eq_nil_iff.mpr all,
    List.drop_nil]

theorem cutBytes_append (whole : sep ∉ bs) (rest : List UInt8) :
    cutBytes sep (bs ++ sep :: rest) = (bs, rest) := by
  have all : ∀ b ∈ bs, (b != sep) = true := by grind
  rw [cutBytes, List.takeWhile_append_of_pos all, List.dropWhile_append_of_pos all,
    List.takeWhile_cons_of_neg (by simp), List.dropWhile_cons_of_neg (by simp), List.append_nil,
    List.drop_one, List.tail_cons]

def fieldText (f : String × String) : String := escaped f.1 ++ "=" ++ escaped f.2

/-- Fields as a query has them. -/
def fieldsText : List (String × String) → String
  | [] => ""
  | [f] => fieldText f
  | f :: g :: fs => fieldText f ++ "&" ++ fieldsText (g :: fs)

theorem utf8_fieldText (f : String × String) :
    utf8 (fieldText f) = utf8 (escaped f.1) ++ 0x3d :: utf8 (escaped f.2) := by
  rw [fieldText, utf8_append, utf8_append, List.append_assoc]
  rfl

theorem mem_fieldText {f : String × String} {b : UInt8} (h : b ∈ utf8 (fieldText f)) :
    unreserved b = true ∨ b ∈ [0x25, 0x3d] := by
  rw [utf8_fieldText, List.mem_append, List.mem_cons] at h
  rcases h with name | equal | value
  · exact (mem_escaped name).imp_right fun same => by simp [same]
  · exact .inr (by simp [equal])
  · exact (mem_escaped value).imp_right fun same => by simp [same]

theorem formField_fieldText (f : String × String) : formField (utf8 (fieldText f)) = f := by
  have name : 0x3d ∉ utf8 (escaped f.1) := fun h => absurd (mem_escaped h) (by decide)
  rw [formField, utf8_fieldText, cutBytes_append name]
  simp only [formText_escaped]

theorem formFields_fieldsText (fs : List (String × String)) :
    formFields (utf8 (fieldsText fs)) = fs := by
  have written (f : String × String) : (utf8 (fieldText f)).isEmpty = false := by
    rw [utf8_fieldText]
    simp
  have whole (f : String × String) : 0x26 ∉ utf8 (fieldText f) :=
    fun h => absurd (mem_fieldText h) (by decide)
  induction fs with
  | nil => rfl
  | cons f fs ih =>
    cases fs with
    | nil =>
      rw [formFields, fieldsText, splitBytes_of_notMem (whole f)]
      simp [written, formField_fieldText]
    | cons g fs =>
      have parted : utf8 (fieldsText (f :: g :: fs)) =
          utf8 (fieldText f) ++ 0x26 :: utf8 (fieldsText (g :: fs)) := by
        rw [fieldsText, utf8_append, utf8_append, List.append_assoc]
        rfl
      rw [formFields, parted, splitBytes_append (whole f),
        List.filter_cons_of_pos (by simp [written]), List.map_cons, formField_fieldText,
        ← formFields, ih]

theorem mem_fieldsText {fs : List (String × String)} {b : UInt8} (h : b ∈ utf8 (fieldsText fs)) :
    unreserved b = true ∨ b ∈ [0x25, 0x3d, 0x26] := by
  have ofField {f : String × String} (h : b ∈ utf8 (fieldText f)) :
      unreserved b = true ∨ b ∈ [0x25, 0x3d, 0x26] :=
    (mem_fieldText h).imp_right (List.mem_append_left [0x26])
  induction fs with
  | nil => exact absurd h List.not_mem_nil
  | cons f fs ih =>
    cases fs with
    | nil => exact ofField h
    | cons g fs =>
      rw [fieldsText, utf8_append, utf8_append, List.append_assoc, List.mem_append,
        List.mem_append] at h
      rcases h with first | between | rest
      · exact ofField first
      · exact .inr (List.mem_append_right [0x25, 0x3d] between)
      · exact ih rest

end Text

namespace Web
open Text

def pathText : List String → String
  | [] => ""
  | s :: ss => "/" ++ escaped s ++ pathText ss

def target (path : List String) (fields : List (String × String)) : String :=
  pathText path ++ "?" ++ fieldsText fields

theorem utf8_pathText_cons (s : String) (ss : List String) :
    utf8 (pathText (s :: ss)) = 0x2f :: (utf8 (escaped s) ++ utf8 (pathText ss)) := by
  rw [pathText, utf8_append, utf8_append]
  rfl

theorem mem_pathText {path : List String} {b : UInt8} (h : b ∈ utf8 (pathText path)) :
    unreserved b = true ∨ b ∈ [0x25, 0x2f] := by
  induction path with
  | nil => exact absurd h List.not_mem_nil
  | cons s ss ih =>
    rw [utf8_pathText_cons, List.mem_cons, List.mem_append] at h
    rcases h with slash | name | rest
    · exact .inr (by simp [slash])
    · exact (mem_escaped name).imp_right fun same => by simp [same]
    · exact ih rest

theorem splitBytes_pathText (s : String) (ss : List String) :
    splitBytes 0x2f (utf8 (escaped s) ++ utf8 (pathText ss)) =
      (s :: ss).map fun s => utf8 (escaped s) := by
  have whole (s : String) : 0x2f ∉ utf8 (escaped s) := fun h => absurd (mem_escaped h) (by decide)
  induction ss generalizing s with
  | nil =>
    have ended : utf8 (pathText []) = [] := rfl
    rw [ended, List.append_nil, splitBytes_of_notMem (whole s)]
    rfl
  | cons t ts ih =>
    rw [utf8_pathText_cons, splitBytes_append (whole s), ih]
    rfl

theorem utf8_target (path : List String) (fields : List (String × String)) :
    utf8 (target path fields) = utf8 (pathText path) ++ 0x3f :: utf8 (fieldsText fields) := by
  rw [target, utf8_append, utf8_append, List.append_assoc]
  rfl

theorem ofTarget_target (method : String) {path : List String} (some : path ≠ [])
    (fields : List (String × String)) :
    Request.ofTarget method (target path fields) =
      ⟨method, path.map fun s => utf8 (escaped s), fields⟩ := by
  obtain ⟨s, ss, rfl⟩ := List.exists_cons_of_ne_nil some
  have origin : dropOrigin (utf8 (target (s :: ss) fields)) = utf8 (target (s :: ss) fields) := by
    rw [dropOrigin, utf8_target, utf8_pathText_cons]
    exact if_pos rfl
  have whole : 0x23 ∉ utf8 (target (s :: ss) fields) := by
    rw [utf8_target, List.mem_append, List.mem_cons]
    rintro (path | mark | query)
    · exact absurd (mem_pathText path) (by decide)
    · exact absurd mark (by decide)
    · exact absurd (mem_fieldsText query) (by decide)
  have parted : 0x3f ∉ utf8 (pathText (s :: ss)) := fun h => absurd (mem_pathText h) (by decide)
  simp only [Request.ofTarget, origin, cutBytes_of_notMem whole]
  rw [utf8_target, cutBytes_append parted]
  simp only
  rw [formFields_fieldsText, utf8_pathText_cons, List.drop_one, List.tail_cons, splitBytes_pathText]

end Web

end Entitlements
