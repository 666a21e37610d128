import Entitlements.CommandLine.Arguments
import Entitlements.Environment

set_option autoImplicit false

/-!
Help texts: what a level is about, how it is called, and tables of its verbs, names and flags. The
texts of a table begin in one column. Titles and what is to be typed word for word may be
emphasised.
-/

namespace Entitlements.CommandLine

def Verb.about : Verb → String
  | .sync => "Compile the definitions and sync them into the database"
  | .list => "Print the compiled catalog grouped by resource"
  | .roles => "Print compiled roles"
  | .translate => "Print labels for permission names"
  | .migrate => "Apply pending migrations"

def helpAbout : String := "Print this message or the help of the given subcommand(s)"

def padRight (width : Nat) (s : String) : String :=
  s ++ .ofList (List.replicate (width - s.length) ' ')

namespace Help

/-- Whether emphasis is shown. -/
inductive Emphasis where
  | shown | hidden
  deriving DecidableEq, Repr

/-- The variables that decide about emphasis. -/
def variableNames : List String := ["NO_COLOR", "CLICOLOR_FORCE"]

/-- Emphasis must be asked for, and it must not be declined. -/
def emphasis (e : Environment) : Emphasis :=
  if e.value "NO_COLOR" = "" ∧ e.value "CLICOLOR_FORCE" ≠ "" then .shown else .hidden

/-- A piece of text by its emphasis. -/
inductive Piece where
  | title (s : String)
  | literal (s : String)
  | plain (s : String)
  deriving DecidableEq, Repr

namespace Piece

def bold : String := "\x1b[1m"

def underline : String := "\x1b[4m"

def reset : String := "\x1b[0m"

def text : Piece → String
  | .title s | .literal s | .plain s => s

def render (p : Piece) : Emphasis → String
  | .hidden => p.text
  | .shown =>
    match p with
    | .title s => bold ++ underline ++ s ++ reset
    | .literal s => bold ++ s ++ reset
    | .plain s => s

end Piece

def width (ps : List Piece) : Nat := ps.foldl (fun n p => n + p.text.length) 0

def programName : String := "permissions-cli"

/-- The program's name and version. -/
def version : String := "permissions-manager 0.1.0\n"

/-- Rows of a term and a text, the texts two blanks behind the longest term. -/
def table (title : String) (rows : List (List Piece × String)) : List Piece :=
  let column := (rows.map fun r => width r.1).foldl max 0 + 2
  [.title (title ++ ":"), .plain "\n"] ++ rows.flatMap fun r =>
    .plain "  " :: r.1 ++ [.plain (padRight (column - width r.1) "" ++ r.2 ++ "\n")]

def flagTerm : Flag → List Piece
  | .config => [.plain "    ", .literal "--config", .plain " <CONFIG>"]
  | .guards => [.plain "    ", .literal "--guards", .plain " <GUARDS>"]
  | .strict => [.plain "    ", .literal "--strict"]
  | .locale => [.plain "    ", .literal "--locale", .plain " <LOCALE>"]
  | .help => [.literal "-h", .plain ", ", .literal "--help"]
  | .version => [.literal "-V", .plain ", ", .literal "--version"]

def flagText : Flag → String
  | .config => "Permissions definition file; overrides PERMISSIONS_CONFIG"
  | .guards => "Comma-separated guard names; defaults to the config's default_guard"
  | .strict => "Fail when a role references something missing from the catalog"
  | .locale => ""
  | .help => "Print help"
  | .version => "Print version"

def flagTable (l : Level) : List Piece :=
  table "Options" (l.flags.map fun f => (flagTerm f, flagText f))

def verbTable : List Piece :=
  table "Commands" <|
    Verb.all.map (fun v => ([.literal v.name], v.about)) ++ [([.literal "help"], helpAbout)]

/-- How the program is called with some words and what may follow them. -/
def usage (words : List String) (rest : String) : List Piece :=
  [.title "Usage:", .plain " ", .literal (" ".intercalate (programName :: words)),
    .plain (" " ++ rest ++ "\n")]

/-- A line about a level, and its parts below it with an empty line in front of each. -/
def page (about : String) (parts : List (List Piece)) : List Piece :=
  .plain (about ++ "\n") :: parts.flatMap (.plain "\n" :: ·)

def pieces : Topic → List Piece
  | .level .top =>
    page "permission catalog tool" [usage [] "[OPTIONS] <COMMAND>", verbTable, flagTable .top]
  | .level (.verb .translate) =>
    page (Verb.about .translate) [usage ["translate"] "[OPTIONS] [NAMES]...",
      table "Arguments" [([.plain "[NAMES]..."], "")], flagTable (.verb .translate)]
  | .level (.verb v) => page v.about [usage [v.name] "[OPTIONS]", flagTable (.verb v)]
  | .help =>
    page helpAbout [usage ["help"] "[COMMAND]...",
      table "Arguments" [([.plain "[COMMAND]..."], "Print help for the subcommand(s)")]]

def text (e : Emphasis) (topic : Topic) : String :=
  String.join ((pieces topic).map (·.render e))

end Help

end Entitlements.CommandLine
