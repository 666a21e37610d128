import Entitlements.Json.Printer
import Entitlements.Json.Reader
import Entitlements.Store.Connection

set_option autoImplicit false

/-!
One format for the files of stores: a byte that no text begins with, and then a JSON text with the
rows and the counter of each table and the links. Any other format serves as well.
-/

namespace Entitlements

namespace Row

def toJson (r : Row) : Json :=
  .array [.number (.integer r.id), .string r.name, .string r.guard]

def ofJson? : Json → Option Row
  | .array [.number (.integer id), .string name, .string guard] => some ⟨id, name, guard⟩
  | _ => none

@[simp] theorem ofJson?_toJson (r : Row) : ofJson? r.toJson = some r := rfl

end Row

namespace Table

def toJson (t : Table) : Json :=
  .object [("counter", .number (.integer t.counter)), ("rows", .array (t.rows.map Row.toJson))]

def ofJson? : Json → Option Table
  | .object [("counter", .number (.integer counter)), ("rows", .array rows)] =>
    (rows.mapM Row.ofJson?).map (⟨·, counter⟩)
  | _ => none

end Table

namespace Link

def toJson (l : Link) : Json :=
  .array [.number (.integer l.role), .number (.integer l.permission)]

def ofJson? : Json → Option Link
  | .array [.number (.integer role), .number (.integer permission)] => some ⟨role, permission⟩
  | _ => none

@[simp] theorem ofJson?_toJson (l : Link) : ofJson? l.toJson = some l := rfl

end Link

namespace Store

def toJson (s : Store) : Json :=
  .object [("permissions", s.permissions.toJson), ("roles", s.roles.toJson),
    ("links", .array (s.links.map Link.toJson))]

def ofJson? : Json → Option Store
  | .object [("permissions", permissions), ("roles", roles), ("links", .array links)] => do
    return ⟨← Table.ofJson? permissions, ← Table.ofJson? roles, ← links.mapM Link.ofJson?⟩
  | _ => none

def mark : UInt8 := 0xff

def toBytes (s : Store) : List UInt8 := mark :: Text.utf8 s.toJson.render

def ofBytes? : List UInt8 → Option Store
  | [] => none
  | b :: bs =>
    if b = mark then ((Text.decodeUtf8? bs).bind Json.read?).bind ofJson? else none

end Store

def Database.FileFormat.snapshot : FileFormat := ⟨Store.ofBytes?, Store.toBytes⟩

end Entitlements
