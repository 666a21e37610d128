import Entitlements.Decimal.Digits
import Entitlements.Text.Form

set_option autoImplicit false

/-!
Names under which databases are opened. A name that begins with `file:` is an address with an
authority, which must be the own host, a path and parameters: they may change the rights and name
the system of files. Any other name is a path as it stands.
-/

namespace Entitlements.Database

/-- What an opened file may be used for. -/
structure Rights where
  readOnly : Bool
  writes : Bool
  creates : Bool
  inMemory : Bool
  deriving DecidableEq, Repr

namespace Rights

def ofMode? : String → Option Rights
  | "ro" => some ⟨true, false, false, false⟩
  | "rw" => some ⟨false, true, false, false⟩
  | "rwc" => some ⟨false, true, true, false⟩
  | "memory" => some ⟨false, false, false, true⟩
  | _ => none

/-- Each right weighs more than those before it together. -/
def weight (r : Rights) : Nat :=
  r.readOnly.toNat + 2 * r.writes.toNat + 4 * r.creates.toNat + 128 * r.inMemory.toNat

/-- A mode must not weigh more than the rights that it replaces; memory is always at hand. -/
def allows (r mode : Rights) : Bool := decide ({ mode with inMemory := false }.weight ≤ r.weight)

end Rights

/-- Where the content of files is kept. -/
inductive Backend where
  | disk | memory
  deriving DecidableEq, Repr

def Backend.ofName? (name : String) : Option Backend :=
  if name ∈ ["unix", "unix-none", "unix-dotfile", "unix-excl"] then some .disk
  else if name = "memdb" then some .memory
  else none

inductive NameFault where
  | foreignHost (host : String)
  | unknownCache (value : String)
  | unknownMode (value : String)
  | refusedMode (value : String)
  | unknownBackend (name : String)
  deriving DecidableEq, Repr

def NameFault.cause : NameFault → String
  | .foreignHost host => "(code: 1) invalid uri authority: " ++ host
  | .unknownCache value => "(code: 1) no such cache mode: " ++ value
  | .unknownMode value => "(code: 1) no such access mode: " ++ value
  | .refusedMode value => "(code: 3) access mode not allowed: " ++ value
  | .unknownBackend name => "(code: 1) no such vfs: " ++ name

/-- The file that a name stands for. -/
structure Target where
  path : List UInt8
  parameters : List (String × String)
  rights : Rights
  backend : Backend
  deriving DecidableEq, Repr

namespace Target

/-- A part of an address behind its escapes; it ends at a null byte. -/
def component (bs : List UInt8) : List UInt8 := (Text.percentDecode bs).takeWhile (· != 0)

def parameter (bs : List UInt8) : String × String :=
  let (name, value) := Text.cutBytes 0x3d bs
  (Text.decodeLossy (component name), Text.decodeLossy (component value))

/-- Parameters without a name are left out. -/
def readParameters (query : List UInt8) : List (String × String) :=
  ((Text.splitBytes 0x26 query).map parameter).filter (·.1 ≠ "")

/-- The rights behind a parameter. -/
def adjust (r : Rights) : String × String → Except NameFault Rights
  | ("cache", value) =>
    if value ∈ ["shared", "private"] then .ok r else .error (.unknownCache value)
  | ("mode", value) =>
    match Rights.ofMode? value with
    | none => .error (.unknownMode value)
    | some mode => if r.allows mode then .ok mode else .error (.refusedMode value)
  | _ => .ok r

/-- The last one of the parameters with a name. -/
def last? (ps : List (String × String)) (name : String) : Option String := ps.reverse.lookup name

def backendOf (ps : List (String × String)) : Except NameFault Backend :=
  match last? ps "vfs" with
  | none => .ok .disk
  | some name =>
    match Backend.ofName? name with
    | some b => .ok b
    | none => .error (.unknownBackend name)

/-- Reads what follows `file:`; what follows `#` is no part of it. -/
def ofAddress (body : List UInt8) (r : Rights) : Except NameFault Target := do
  let (host, rest) := if [0x2f, 0x2f] <+: body then
    ((body.drop 2).takeWhile (· != 0x2f), (body.drop 2).dropWhile (· != 0x2f)) else ([], body)
  if host ≠ [] ∧ host ≠ Text.utf8 "localhost" then throw (.foreignHost (Text.decodeLossy host))
  let (rest, _) := Text.cutBytes 0x23 rest
  let (path, query) := Text.cutBytes 0x3f rest
  let parameters := readParameters query
  let rights ← parameters.foldlM adjust r
  return ⟨component path, parameters, rights, ← backendOf parameters⟩

def ofName (name : List UInt8) (r : Rights) : Except NameFault Target :=
  if Text.utf8 "file:" <+: name then ofAddress (name.drop 5) r else .ok ⟨name, [], r, .disk⟩

/-- A number below `2 ^ 31` is true unless its lowest byte is zero. -/
def truth (value : String) : Bool :=
  let ds := value.toList.takeWhile Decimal.digit
  if ds = [] then ["on", "yes", "true"].contains value.toLower
  else decide (Decimal.value ds < Nat.pow 2 31) && decide (Decimal.value ds % 256 ≠ 0)

/-- Whether nobody is said to write the file. -/
def immutable (x : Target) : Bool := (x.parameters.lookup "immutable").any truth

/-- Whether there is no file at all but memory. -/
def isUnsaved (x : Target) : Bool :=
  x.rights.inMemory || x.path == Text.utf8 ":memory:" || x.path.isEmpty

end Target

end Entitlements.Database
