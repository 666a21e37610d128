import Entitlements.Text.Form
import Entitlements.Text.Quoted

set_option autoImplicit false

/-!
Addresses of databases: a scheme that may be left out, the path of a file with percent escapes, and
parameters. A database may live in memory alone, be open for reading only, be taken for immutable,
and name the system of files that it is in.
-/

namespace Entitlements.Database

structure Address where
  path : String
  inMemory : Bool
  readOnly : Bool
  immutable : Bool
  vfs : Option String
  deriving DecidableEq, Repr

inductive AddressFault where
  | badValue (parameter value : String)
  | unknownParameter (name : String)
  | badPath (flaw : Text.Flaw)
  deriving DecidableEq, Repr

def AddressFault.message : AddressFault → String
  | .badValue parameter value =>
    "unknown value " ++ Text.quoted value ++ " for `" ++ parameter ++ "`"
  | .unknownParameter name =>
    "unknown query parameter `" ++ name ++ "` while parsing connection URL"
  | .badPath flaw => flaw.text

namespace Address

/-- Takes `start` off the front as often as it stands there. -/
def dropAll (start : List UInt8) (bs : List UInt8) : List UInt8 :=
  if _h : start ≠ [] ∧ start <+: bs then dropAll start (bs.drop start.length) else bs
termination_by bs.length
decreasing_by
  have := _h.2.length_le
  have := List.length_pos_iff.2 _h.1
  simp only [List.length_drop]
  omega

def dropScheme (bs : List UInt8) : List UInt8 :=
  dropAll (Text.utf8 "sqlite:") (dropAll (Text.utf8 "sqlite://") bs)

def setParameter (a : Address) : String × String → Except AddressFault Address
  | ("mode", "ro") => .ok { a with readOnly := true }
  | ("mode", "rw") | ("mode", "rwc") => .ok a
  | ("mode", "memory") => .ok { a with inMemory := true }
  | ("cache", "private") | ("cache", "shared") => .ok a
  | ("immutable", "true") | ("immutable", "1") => .ok { a with immutable := true }
  | ("immutable", "false") | ("immutable", "0") => .ok { a with immutable := false }
  | ("vfs", name) => .ok { a with vfs := some name }
  | (name, value) =>
    if name ∈ ["mode", "cache", "immutable"] then .error (.badValue name value)
    else .error (.unknownParameter name)

def setParameters (a : Address) : List (String × String) → Except AddressFault Address
  | [] => .ok a
  | p :: ps => do (← a.setParameter p).setParameters ps

/-- A path without escapes may say that the database is in memory. -/
def ofPath (path : List UInt8) : Except Text.Flaw Address :=
  if path = Text.utf8 ":memory:" then .ok ⟨"", true, false, false, none⟩
  else (Text.readUtf8 (Text.percentDecode path)).map fun p => ⟨p, false, false, false, none⟩

def read (url : String) : Except AddressFault Address := do
  let (path, query) := Text.cutBytes 0x3f (dropScheme (Text.utf8 url))
  let a ← (ofPath path).mapError .badPath
  a.setParameters (Text.formFields query)

/-- The parameters that the name of the file carries, as they stand there. -/
def nameParameters (a : Address) : List String :=
  (if a.immutable then ["immutable=true"] else []) ++ (a.vfs.map ("vfs=" ++ ·)).toList

/-- The name under which the database is opened: its path, or an address of its own when it carries
parameters. -/
def fileName (a : Address) : List UInt8 :=
  match a.nameParameters with
  | [] => Text.utf8 a.path
  | ps =>
    Text.utf8 "file:" ++ Text.percentEncodeReserved (Text.utf8 a.path) ++
      Text.utf8 ("?" ++ "&".intercalate ps)

end Address

end Entitlements.Database
