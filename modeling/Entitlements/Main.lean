import Entitlements.CommandLine.Run
import Entitlements.Store.Snapshot

set_option autoImplicit false

/-!
The program: takes the files that a run can need into a tree, runs the command line, prints, and
writes what the run has changed.
-/

namespace Entitlements.Main

def pathOf (p : Place) : String := "/" ++ "/".intercalate (p.map Text.decodeLossy)

/-- What stands at a place in the file system. -/
def fetchNode (p : Place) : IO (Option Node) := do
  let path := (← IO.currentDir) / pathOf p
  if ← path.isDir then return some .directory
  else if ← path.pathExists then
    try return some (.file (← IO.FS.readBinFile path).toList)
    catch _ => return none
  else return none

def fetch (t : FileTree) (p : Place) : IO FileTree := do
  if (t.get? p).isSome then return t
  match ← fetchNode p with
  | some n => return t.put p n
  | none => return t

/-- The places that a walk over names can come by. -/
def stops (p : Place) : List (List UInt8) → List Place
  | [] => [p]
  | name :: rest =>
    if name = [] ∨ name = Text.utf8 "." then stops p rest
    else if name = Text.utf8 ".." then p :: stops p.dropLast rest
    else p :: stops (p ++ [name]) rest

def fetchPath (t : FileTree) (path : List UInt8) : IO FileTree :=
  let start := if path.head? = some 0x2f then [] else t.current
  (stops start (Text.splitBytes 0x2f path)).foldlM fetch t

/-- The files of labels in a directory. -/
def fetchLocales (t : FileTree) (dir : List UInt8) : IO FileTree := do
  let t ← fetchPath t dir
  match t.locate dir with
  | .error _ => return t
  | .ok p =>
    if t.isDirectory p then
      let entries ← ((← IO.currentDir) / pathOf p).readDir
      let names := (entries.toList.map (·.fileName)).mergeSort fun a b => decide (a ≤ b)
      names.foldlM (fun t name =>
        fetchPath t (FileTree.join (FileTree.join dir (Text.utf8 name)) Dictionary.fileName)) t
    else return t

/-- The files of variables in the current directory and above it. -/
def fetchVariables (t : FileTree) : IO FileTree :=
  (FileTree.ancestry t.current ++ [[]]).foldlM (fun t p => fetch t (p ++ [Text.utf8 ".env"])) t

/-- Words of a file that may name a variable. -/
def wordsOf (content : List UInt8) : List String :=
  let text := Text.decodeLossy content
  Text.tokensWhere (!Environment.nameChar ·) text ++ Text.tokensWhere (!Text.alphanumeric ·) text

/-- The variables of the environment that a run can ask for. -/
def fetchEnvironment (t : FileTree) : IO Environment := do
  let words := ((CommandLine.environmentFile? t).map wordsOf).getD []
  (Settings.names ++ CommandLine.Help.variableNames ++ words).foldlM (fun e name => do
    match ← IO.getEnv name with
    | some value => return OrderedMap.insert e name value
    | none => return e) ∅

/-- A database file and what stands beside it. -/
def fetchDatabase (t : FileTree) (x : Database.Target) : IO FileTree := do
  if x.isUnsaved then return t
  let t ← fetchPath t x.path
  let t ← ((x.parameters.lookup "modeof").toList.map Text.utf8).foldlM fetchPath t
  match Database.place? t x.path with
  | some p => [p.dropLast, p, Database.journalOf p, Database.logOf p].foldlM fetch t
  | none => return t

/-- The files that the settings and the arguments point to. -/
def fetchFiles (t : FileTree) (s : Settings) (config : Option String) : IO FileTree := do
  let t ← fetchPath t (Text.utf8 (CommandLine.configurationPath s config))
  let t ← fetchLocales t (Text.utf8 s.langDir)
  match s.databaseUrl.map Database.Connection.target with
  | some (.ok x) => fetchDatabase t x
  | _ => return t

def prepare (t : FileTree) (e : Environment) (args : List String) : IO FileTree :=
  match CommandLine.Request.ofArguments args,
      Settings.read (CommandLine.fullEnvironment t e) with
  | .run config _, .ok s => fetchFiles t s config
  | _, _ => return t

/-- Deletes the files that are in `old` only, and writes those of `new` that are not in `old` as
they are. -/
def store (old new : FileTree) : IO Unit := do
  let root ← IO.currentDir
  old.nodes.forM fun (p, n) => do
    if n ≠ .directory ∧ (new.get? p).isNone then IO.FS.removeFile (root / pathOf p)
  new.nodes.forM fun (p, n) =>
    match n with
    | .file content =>
      if old.get? p == some n then return ()
      else IO.FS.writeBinFile (root / pathOf p) ⟨content.toArray⟩
    | .directory => return ()

end Entitlements.Main

def main (args : List String) : IO UInt32 := do
  let start := (Entitlements.Text.tokensWhere (· == '/') (← IO.currentDir).toString).map
    Entitlements.Text.utf8
  let bare ← (Entitlements.FileTree.ancestry start).foldlM Entitlements.Main.fetch ⟨start, []⟩
  let bare ← Entitlements.Main.fetchVariables bare
  let environment ← Entitlements.Main.fetchEnvironment bare
  let files ← Entitlements.Main.prepare bare environment args
  let (output, changed) := Entitlements.CommandLine.run .snapshot files environment args
  IO.print output.out
  IO.eprint output.err
  Entitlements.Main.store files changed
  return .ofNat output.code
