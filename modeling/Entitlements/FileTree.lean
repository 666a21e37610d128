import Entitlements.Text.Form

set_option autoImplicit false

/-!
Files and directories by their places. Names are bytes, which need not spell any text. A place is the
row of names that leads to it from the root; a path is walked name by name, from the root when it
begins with a slash and from the current directory otherwise.
-/

namespace Entitlements

abbrev Place := List (List UInt8)

inductive Node where
  | directory
  | file (content : List UInt8)
  deriving DecidableEq, Repr

structure FileTree where
  current : Place
  nodes : List (Place × Node)
  deriving Repr

/-- Why a path gives no text. -/
inductive FileFault where
  | missing | notDirectory | isDirectory | nameTooLong | nulInName | notText
  deriving DecidableEq, Repr

def FileFault.message : FileFault → String
  | .missing => "No such file or directory (os error 2)"
  | .notDirectory => "Not a directory (os error 20)"
  | .isDirectory => "Is a directory (os error 21)"
  | .nameTooLong => "File name too long (os error 36)"
  | .nulInName => "file name contained an unexpected NUL byte"
  | .notText => "stream did not contain valid UTF-8"

/-- The most bytes that one name may have. -/
def maxNameBytes : Nat := 255

/-- The most bytes that a path may have. -/
def maxPathBytes : Nat := 4095

namespace FileTree

/-- What stands at a place; the root is always a directory. -/
def get? (t : FileTree) (p : Place) : Option Node :=
  if p = [] then some .directory else t.nodes.lookup p

def isDirectory (t : FileTree) (p : Place) : Bool := t.get? p == some .directory

/-- Puts a node at a place, instead of what stood there. -/
def put (t : FileTree) (p : Place) (n : Node) : FileTree :=
  { t with nodes := t.nodes.filter (·.1 != p) ++ [(p, n)] }

/-- Takes away what stands at a place. -/
def remove (t : FileTree) (p : Place) : FileTree :=
  { t with nodes := t.nodes.filter (·.1 != p) }

/-- The places from the first below the root down to `p`. -/
def ancestry : Place → List Place
  | [] => []
  | name :: p => [name] :: (ancestry p).map (name :: ·)

/-- Makes the directories that lead to a place where nothing stands yet. -/
def makeDirectories (t : FileTree) (p : Place) : FileTree :=
  (ancestry p).foldl (fun t q => if (t.get? q).isSome then t else t.put q .directory) t

/-- Puts a node at a place and makes the directories above it. -/
def add (t : FileTree) (p : Place) (n : Node) : FileTree := (t.makeDirectories p.dropLast).put p n

/-- The names in a directory, in the order in which they were put there. -/
def names (t : FileTree) (p : Place) : List (List UInt8) :=
  t.nodes.filterMap fun e => if e.1.dropLast = p then e.1.getLast? else none

/-- Follows names from a place. Every place that is left by a name must be a directory; the last
one need not exist. -/
def walk (t : FileTree) (p : Place) : List (List UInt8) → Except FileFault Place
  | [] => .ok p
  | name :: rest =>
    match t.get? p with
    | none => .error .missing
    | some (.file _) => .error .notDirectory
    | some .directory =>
      if name = [] ∨ name = Text.utf8 "." then t.walk p rest
      else if name = Text.utf8 ".." then t.walk p.dropLast rest
      else if maxNameBytes < name.length then .error .nameTooLong
      else t.walk (p ++ [name]) rest

/-- The place that a path leads to. -/
def locate (t : FileTree) (path : List UInt8) : Except FileFault Place :=
  if path = [] then .error .missing
  else if 0 ∈ path then .error .nulInName
  else if maxPathBytes < path.length then .error .nameTooLong
  else t.walk (if path.head? = some 0x2f then [] else t.current) (Text.splitBytes 0x2f path)

def node (t : FileTree) (path : List UInt8) : Except FileFault Node := do
  match t.get? (← t.locate path) with
  | some n => return n
  | none => throw .missing

def hasFile (t : FileTree) (path : List UInt8) : Bool :=
  match t.node path with
  | .ok (.file _) => true
  | _ => false

def readBytes (t : FileTree) (path : List UInt8) : Except FileFault (List UInt8) := do
  match ← t.node path with
  | .file content => return content
  | .directory => throw .isDirectory

def readText (t : FileTree) (path : List UInt8) : Except FileFault String := do
  match Text.decodeUtf8? (← t.readBytes path) with
  | some s => return s
  | none => throw .notText

/-- The names in the directory that a path leads to; none when it leads to no directory. -/
def list (t : FileTree) (path : List UInt8) : List (List UInt8) :=
  match t.locate path with
  | .ok p => if t.isDirectory p then t.names p else []
  | .error _ => []

/-- The path of a name within the directory of a path. -/
def join (path name : List UInt8) : List UInt8 :=
  if path = [] ∨ path.getLast? = some 0x2f then path ++ name else path ++ 0x2f :: name

end FileTree

end Entitlements
