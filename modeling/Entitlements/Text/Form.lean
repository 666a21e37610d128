import Entitlements.Text.Percent

set_option autoImplicit false

/-!
Fields `name=value` joined by `&`, with `+` for a blank and percent escapes. Text that is not UTF-8
is repaired.
-/

namespace Entitlements.Text

/-- The pieces between bytes equal to `sep`. -/
def splitBytes (sep : UInt8) : List UInt8 → List (List UInt8)
  | [] => [[]]
  | b :: bs =>
    if b = sep then [] :: splitBytes sep bs
    else match splitBytes sep bs with
      | [] => [[b]]
      | w :: ws => (b :: w) :: ws

/-- What stands before and after the first `sep`; all of it stands before when there is none. -/
def cutBytes (sep : UInt8) (bs : List UInt8) : List UInt8 × List UInt8 :=
  (bs.takeWhile (· != sep), (bs.dropWhile (· != sep)).drop 1)

def formText (bs : List UInt8) : String :=
  decodeLossy (percentDecode (bs.map fun b => if b = 0x2b then 0x20 else b))

def formField (bs : List UInt8) : String × String :=
  let (name, value) := cutBytes 0x3d bs
  (formText name, formText value)

/-- The fields of a query, empty ones left out. -/
def formFields (query : List UInt8) : List (String × String) :=
  ((splitBytes 0x26 query).filter (!·.isEmpty)).map formField

end Entitlements.Text
