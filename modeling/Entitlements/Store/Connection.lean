import Entitlements.FileTree
import Entitlements.Store
import Entitlements.Store.Address
import Entitlements.Store.FileName

set_option autoImplicit false

/-!
Opening the database of an address and saving it again. A file that is not there is made, unless
the database is for reading only; then the tables are prepared. Beside the file there may be two
others left over from unfinished work: a journal and a log of writes.
-/

namespace Entitlements.Database

/-- What the database engine complains about. -/
inductive EngineFault where
  | readOnly | cannotOpen | notDatabase | unreadable | noAttributes | staleJournal | cannotDelete
  deriving DecidableEq, Repr

def EngineFault.cause : EngineFault → String
  | .readOnly => "(code: 8) attempt to write a readonly database"
  | .cannotOpen => "(code: 14) unable to open database file"
  | .notDatabase => "(code: 26) file is not a database"
  | .unreadable => "(code: 266) disk I/O error"
  | .staleJournal => "(code: 776) attempt to write a readonly database"
  | .noAttributes => "(code: 1802) disk I/O error"
  | .cannotDelete => "(code: 2570) disk I/O error"

inductive OpenFault where
  | address (url : String) (fault : AddressFault)
  | nullInName
  | name (fault : NameFault)
  | connection (fault : EngineFault)
  | preparation (fault : EngineFault)
  deriving DecidableEq, Repr

/-- A cause is told with each of its wrappings. -/
def wrapped (wrapping cause : String) : String := wrapping ++ ": " ++ cause ++ ": " ++ cause

def fromDatabase : String := "error returned from database"

def notConnected : String := "failed to connect to database: "

def OpenFault.message : OpenFault → String
  | .address url fault =>
    "invalid DATABASE_URL: " ++ url ++ ": " ++ wrapped "error with configuration" fault.message
  | .nullInName =>
    notConnected ++ wrapped "error communicating with database"
      "filename passed to SQLite must not contain nul bytes"
  | .name fault => notConnected ++ wrapped fromDatabase fault.cause
  | .connection fault => notConnected ++ wrapped fromDatabase fault.cause
  | .preparation fault =>
    "failed to run migrations: while executing migrations: " ++ fromDatabase ++ ": " ++
      fault.cause ++ ": " ++ wrapped fromDatabase fault.cause

/-- The bytes of the path to a place from the root. -/
def pathBytes (p : Place) : Nat := p.foldl (fun n name => n + name.length + 1) 0

/-- The most bytes that a path may have on the way, and in the end. -/
def maxWayBytes : Nat := 511

def maxFileBytes : Nat := 504

/-- Goes on by one name. The way is by words alone: nothing need stand there, but a file has nothing
below it. -/
def advance? (t : FileTree) (p : Place) (name : List UInt8) : Option Place :=
  if name = [] ∨ name = Text.utf8 "." then some p
  else if name = Text.utf8 ".." then some p.dropLast
  else
    let next := p ++ [name]
    match t.get? p with
    | some (.file _) => none
    | _ => if maxNameBytes < name.length ∨ maxWayBytes < pathBytes next then none else some next

/-- The place of a database file. -/
def place? (t : FileTree) (path : List UInt8) : Option Place := do
  let start := if path.head? = some 0x2f then [] else t.current
  let p ← (Text.splitBytes 0x2f path).foldlM (advance? t) start
  if p = [] ∨ maxFileBytes < pathBytes p then none else some p

/-- The place of a file that stands beside another one. -/
def beside (p : Place) (ending : String) : Place :=
  p.dropLast ++ [p.getLast?.getD [] ++ Text.utf8 ending]

def journalOf (p : Place) : Place := beside p "-journal"

def logOf (p : Place) : Place := beside p "-wal"

/-- What stands beside a database file; an empty file counts as none. -/
def sidecar? (t : FileTree) (p : Place) : Option Node :=
  (t.get? p).filter (· ≠ .file [])

/-- How the content of a file stands for a store. -/
structure FileFormat where
  read? : List UInt8 → Option Store
  write : Store → List UInt8

/-- A step that may change files; what it changed stays when it fails. -/
abbrev FileAction := EStateM OpenFault FileTree

/-- Opens a file, which is made when it may be. -/
def openFile (x : Target) (p : Place) : FileAction (List UInt8) := do
  let t ← get
  if (x.parameters.lookup "modeof").any fun path => (t.node (Text.utf8 path)).isOk = false then
    throw (.connection .noAttributes)
  match t.get? p with
  | some (.file content) => return content
  | some .directory =>
    throw (.connection (if x.rights.readOnly then .unreadable else .cannotOpen))
  | none =>
    if x.rights.creates ∧ t.isDirectory p.dropLast then
      set (t.put p (.file []))
      return []
    else throw (.connection .cannotOpen)

/-- Whether a journal tells of work to be undone. -/
def pending : List UInt8 → Bool
  | [] => false
  | b :: _ => b != 0

/-- Looks at the files beside an empty database. Both are of no use and are deleted, the journal
only by those who may write. -/
def clearLeftovers (readOnly : Bool) (p : Place) : FileAction Unit := do
  let t ← get
  let t := match sidecar? t (journalOf p) with
    | some (.file _) => if readOnly then t else t.remove (journalOf p)
    | _ => t
  set t
  match sidecar? t (logOf p) with
  | some .directory => throw (.preparation .cannotDelete)
  | some (.file _) => set (t.remove (logOf p))
  | none => return ()

/-- Looks at the files beside a database that has content. -/
def useLeftovers (readOnly : Bool) (p : Place) : FileAction Unit := do
  let t ← get
  match sidecar? t (journalOf p) with
  | some .directory => throw (.preparation .unreadable)
  | some (.file content) =>
    if pending content then
      if readOnly then throw (.preparation .staleJournal) else set (t.remove (journalOf p))
  | none => pure ()
  if sidecar? t (logOf p) = some .directory then throw (.preparation .cannotOpen)

/-- A file of one byte is as good as an empty one. -/
def isEmptyContent (content : List UInt8) : Bool := decide (content.length ≤ 1)

/-- Whether a file can be made at a place and written. -/
def canWrite (t : FileTree) (p : Place) : Bool :=
  !t.isDirectory p && p.getLast?.all fun name => decide (name.length ≤ maxNameBytes)

/-- Makes the tables of an empty database, which takes a journal for the time being. -/
def makeTables (readOnly : Bool) (p : Place) : FileAction Database := do
  if readOnly then throw (.preparation .readOnly)
  let t ← get
  unless canWrite t (journalOf p) do throw (.preparation .cannotOpen)
  set (t.remove (journalOf p))
  return .fresh

/-- The database in a file. Nobody looks beside an immutable one. -/
def prepareFile (format : FileFormat) (x : Target) (p : Place) (content : List UInt8) :
    FileAction Database := do
  let readOnly := x.rights.readOnly || x.immutable
  if isEmptyContent content then
    unless x.immutable do clearLeftovers readOnly p
    makeTables readOnly p
  else
    unless x.immutable do useLeftovers readOnly p
    match format.read? content with
    | some store => return ⟨store, if readOnly then .readOnly else .writable⟩
    | none => throw (.preparation .notDatabase)

/-- An open database, and the place of its file if it has one. -/
structure Connection where
  database : Database
  file : Option Place
  deriving DecidableEq, Repr

namespace Connection

/-- A database without a file, which must be made anew. -/
def inMemory (readOnly : Bool) : FileAction Connection :=
  if readOnly then throw (.preparation .readOnly) else return ⟨.fresh, none⟩

def openTarget (format : FileFormat) (x : Target) : FileAction Connection := do
  if x.isUnsaved then inMemory x.rights.readOnly
  else if x.backend = .memory then inMemory (x.rights.readOnly || x.immutable)
  else
    match place? (← get) x.path with
    | none => throw (.connection .cannotOpen)
    | some p => return ⟨← prepareFile format x p (← openFile x p), some p⟩

/-- The rights that an address asks for. -/
def rightsOf (a : Address) : Rights := ⟨a.readOnly, !a.readOnly, !a.readOnly, a.inMemory⟩

/-- The file that an address stands for. -/
def target (url : String) : Except OpenFault Target := do
  let a ← (Address.read url).mapError (.address url)
  if 0 ∈ a.fileName then throw .nullInName
  (Target.ofName a.fileName (rightsOf a)).mapError .name

def openUrl (format : FileFormat) (url : String) : FileAction Connection := do
  match target url with
  | .ok x => openTarget format x
  | .error fault => throw fault

/-- The files with the store in its place; a database for reading only changes none. -/
def save (format : FileFormat) (c : Connection) (t : FileTree) : FileTree :=
  match c.file, c.database.access with
  | some p, .writable => t.put p (.file (format.write c.database.store))
  | _, _ => t

end Connection

end Entitlements.Database
