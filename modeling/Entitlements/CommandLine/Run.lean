import Entitlements.CommandLine.Help
import Entitlements.Configuration.File
import Entitlements.Dictionary.Directory
import Entitlements.Environment.File
import Entitlements.Labeller
import Entitlements.Settings
import Entitlements.Store.Command
import Entitlements.Store.Connection

set_option autoImplicit false

/-!
Runs of the command line over files and an environment. A run prints, ends with a code and may
change the files: syncing into several guards goes on behind a failure and ends with code 1.
-/

namespace Entitlements

/-- The guard names in a list with commas. -/
def guardNames (raw : String) : List String :=
  ((Text.splitWhere (· == ',') raw).map Text.trim).filter (· ≠ "")

/-- Syncs into one guard after the other; a failure does not stop the rest. -/
def Database.syncAll (p : Policy) (admins : SuperAdmins) :
    List String → Database → List (String × Except Failure SyncReport) × Database
  | [], db => ([], db)
  | guard :: rest, db =>
    let (report, db) := perform (sync p admins guard) db
    let (reports, db) := syncAll p admins rest db
    ((guard, report) :: reports, db)

namespace CommandLine

structure Output where
  code : Nat
  out : String
  err : String
  deriving DecidableEq, Repr

def line (s : String) : String := s ++ "\n"

def lines (ss : List String) : String := String.join (ss.map line)

def number (n : Nat) : String := .ofList (Nat.toDigits 10 n)

namespace Output

/-- A run that prints and ends well. -/
def printed (out : String) : Output := ⟨0, out, ""⟩

/-- A run whose code tells whether there is anything to complain about. -/
def complaining (out err : String) : Output := ⟨if err = "" then 0 else 1, out, err⟩

end Output

inductive Fault where
  | settings (f : Failure)
  | configuration (path : String) (f : Configuration.LoadFault)
  | noGuards (raw : String)
  | database (f : Database.OpenFault)
  | dictionary (f : Dictionary.LoadFault)

/-- What the files tell is told again behind the failure. -/
def Fault.message : Fault → String
  | .settings f => f.message
  | .configuration path f => "failed to load " ++ path ++ ": " ++ f.message
  | .noGuards raw => "no guard names given in `" ++ raw ++ "`"
  | .database f => f.message
  | .dictionary (.unreadable f) =>
    (Dictionary.LoadFault.failure (.unreadable f)).message ++ ": " ++ f.message
  | .dictionary f => f.failure.message

def Fault.output (f : Fault) : Output := ⟨1, "", line ("error: " ++ f.message)⟩

/-- Group names, each with its own names indented below. -/
def catalogText (c : Catalog) : String :=
  String.join (c.groups.toList.map fun g => lines (g.1 :: g.2.map ("  " ++ ·))) ++
    line (number c.size ++ " permissions")

def grantsText (g : RoleGrants) : String :=
  String.join <| g.toList.map fun r =>
    lines ((r.1 ++ " (" ++ number r.2.permissions.length ++ ")") ::
      r.2.permissions.map ("  " ++ ·))

def droppedText (ds : List Dropped) : String :=
  lines (ds.map fun d => "unknown reference in role [" ++ d.role ++ "]: " ++ d.reference)

def labelsText (labels : OrderedMap String) : String :=
  lines (labels.toList.map fun l => l.1 ++ "\t" ++ l.2)

/-- The width of the column of role names. -/
def roleWidth : Nat := 24

def reportText (r : SyncReport) : String :=
  lines <| ("Permissions synced for guard [" ++ r.guard ++ "]: " ++ number r.permissionsCount ++
      " permissions.") ::
    r.rolesProcessed.toList.map fun e =>
      "  " ++ padRight roleWidth e.1 ++ " " ++ e.2.text

def syncText (guard : String) : Except Failure SyncReport → Output
  | .ok r => .complaining (reportText r) ""
  | .error f => .complaining "" (line ("Sync failed for guard [" ++ guard ++ "]: " ++ f.message))

def syncsText (rs : List (String × Except Failure SyncReport)) : Output :=
  let texts := rs.map fun r => syncText r.1 r.2
  .complaining (String.join (texts.map (·.out))) (String.join (texts.map (·.err)))

/-- A run over files; what it changed stays when it fails. -/
abbrev Run := EStateM Fault FileTree

/-- What the files tell, which are left as they are. -/
def reading {α : Type} (f : FileTree → Except Fault α) : Run α := do
  match f (← get) with
  | .ok a => return a
  | .error fault => throw fault

def loadConfiguration (path : String) : Run Configuration :=
  reading fun t => (Configuration.load t path).mapError (.configuration path)

section Databases
variable (format : Database.FileFormat)

def openDatabase (s : Settings) : Run Database.Connection := do
  match s.requireDatabaseUrl with
  | .ok url => (Database.Connection.openUrl format url).adaptExcept .database
  | .error f => throw (.settings f)

def runSync (s : Settings) (path : String) (guards : Option String) : Run Output := do
  let c ← loadConfiguration path
  let raw := guards.getD c.defaultGuard
  if guardNames raw = [] then throw (.noGuards raw)
  let connection ← openDatabase format s
  let (reports, database) :=
    connection.database.syncAll c.policy c.superAdmins (guardNames raw)
  modify (Database.Connection.save format { connection with database })
  return syncsText reports

def runList (path : String) : Run Output := do
  return .printed (catalogText (← loadConfiguration path).policy.catalog)

/-- Dropped references are complained about on request only. -/
def runRoles (path : String) (strict : Bool) : Run Output := do
  let grants := (← loadConfiguration path).policy.grants
  return .complaining (grantsText grants) (if strict then droppedText grants.dropped else "")

def runTranslate (s : Settings) (names : List String) (locale : Option String) : Run Output := do
  let d ← reading fun t => (Dictionary.loadDir t (Text.utf8 s.langDir)).mapError .dictionary
  let labeller := (Labeller.new d (locale.getD s.locale)).withFallback s.fallbackLocale
  return .printed (labelsText (labeller.labels names))

def runMigrate (s : Settings) : Run Output := do
  let connection ← openDatabase format s
  modify (connection.save format)
  return .printed (line "Migrations applied")

def runCommand (s : Settings) (path : String) : Command → Run Output
  | .sync guards => runSync format s path guards
  | .list => runList path
  | .roles strict => runRoles path strict
  | .translate names locale => runTranslate s names locale
  | .migrate => runMigrate format s

/-- The path of the configuration: an argument goes before the settings. -/
def configurationPath (s : Settings) (config : Option String) : String :=
  config.getD s.permissionsPath

/-- The nearest file of variables in the current directory or above it. -/
def environmentFile? (t : FileTree) : Option (List UInt8) :=
  ((FileTree.ancestry t.current).reverse ++ [[]]).findSome? fun p =>
    match t.get? (p ++ [Text.utf8 ".env"]) with
    | some (.file content) => some content
    | _ => none

/-- The environment with the variables of the nearest file, if there is one. -/
def fullEnvironment (t : FileTree) (e : Environment) : Environment :=
  match environmentFile? t with
  | some content => e.setFile content
  | none => e

def misuseText : String :=
  lines ["error: the arguments cannot be understood", "", "For more information, try '--help'."]

def answer (t : FileTree) (e : Environment) : Request → Output × FileTree
  | .misuse => (⟨2, "", misuseText⟩, t)
  | .help topic => (.printed (Help.text (Help.emphasis e) topic), t)
  | .version => (.printed Help.version, t)
  | .run config command =>
    match Settings.read e with
    | .error f => (Fault.output (.settings f), t)
    | .ok s =>
      match runCommand format s (configurationPath s config) command t with
      | .ok output t => (output, t)
      | .error f t => (f.output, t)

/-- The nearest file of variables goes before everything else. -/
def run (t : FileTree) (e : Environment) (args : List String) : Output × FileTree :=
  answer format t (fullEnvironment t e) (Request.ofArguments args)

end Databases

end CommandLine

end Entitlements
