set_option autoImplicit false

/-!
Arguments of the command line: options, then a verb with options and names of its own. They are
taken one by one, and the first that asks for help or cannot stand where it stands decides.
-/

namespace Entitlements.CommandLine

inductive Verb where
  | sync | list | roles | translate | migrate
  deriving DecidableEq, Repr

namespace Verb

def all : List Verb := [.sync, .list, .roles, .translate, .migrate]

def name : Verb → String
  | .sync => "sync"
  | .list => "list"
  | .roles => "roles"
  | .translate => "translate"
  | .migrate => "migrate-run"

def ofName? (s : String) : Option Verb := all.find? (·.name == s)

end Verb

inductive Flag where
  | config | guards | strict | locale | help | version
  deriving DecidableEq, Repr

namespace Flag

def all : List Flag := [.config, .guards, .strict, .locale, .help, .version]

def name : Flag → String
  | .config => "config"
  | .guards => "guards"
  | .strict => "strict"
  | .locale => "locale"
  | .help => "help"
  | .version => "version"

def ofName? (s : String) : Option Flag := all.find? (·.name == s)

def ofLetter? (c : Char) : Option Flag :=
  if c = 'h' then some .help else if c = 'V' then some .version else none

def takesValue : Flag → Bool
  | .config | .guards | .locale => true
  | .strict | .help | .version => false

end Flag

/-- Where arguments stand: in front of the verb or behind it. -/
inductive Level where
  | top
  | verb (v : Verb)
  deriving DecidableEq, Repr

def Level.flags : Level → List Flag
  | .top => [.config, .help, .version]
  | .verb .sync => [.config, .guards, .help]
  | .verb .roles => [.config, .strict, .help]
  | .verb .translate => [.config, .locale, .help]
  | .verb .list | .verb .migrate => [.config, .help]

/-- What has been said on one level. -/
structure Given where
  values : List (Flag × String)
  names : List String
  deriving DecidableEq, Repr

namespace Given

instance : EmptyCollection Given := ⟨⟨[], []⟩⟩

/-- A flag may be given once; the configuration's path must not be empty. -/
def set? (g : Given) (f : Flag) (value : String) : Option Given :=
  if (g.values.lookup f).isSome then none
  else if f = .config ∧ value = "" then none
  else some { g with values := g.values ++ [(f, value)] }

def value? (g : Given) (f : Flag) : Option String := g.values.lookup f

def has (g : Given) (f : Flag) : Bool := (g.value? f).isSome

/-- Takes over the flag that still waits to be taken; one that lacks its value is refused. -/
def settle? (g : Given) : Option (Flag × Option String) → Option Given
  | none => some g
  | some (f, some value) => g.set? f value
  | some (_, none) => none

end Given

inductive Command where
  | sync (guards : Option String)
  | list
  | roles (strict : Bool)
  | translate (names : List String) (locale : Option String)
  | migrate
  deriving DecidableEq, Repr

def Command.ofGiven (g : Given) : Verb → Command
  | .sync => .sync (g.value? .guards)
  | .list => .list
  | .roles => .roles (g.has .strict)
  | .translate => .translate g.names (g.value? .locale)
  | .migrate => .migrate

/-- What help is asked about. -/
inductive Topic where
  | level (l : Level)
  | help
  deriving DecidableEq, Repr

inductive Request where
  | run (config : Option String) (command : Command)
  | help (topic : Topic)
  | version
  | misuse
  deriving DecidableEq, Repr

/-- An argument by its looks. -/
inductive Token where
  | escape
  | long (name : List Char) (value : Option (List Char))
  | short (letters : List Char)
  | plain
  deriving DecidableEq, Repr

def Token.ofChars : List Char → Token
  | ['-', '-'] => .escape
  | '-' :: '-' :: cs =>
    .long (cs.takeWhile (· ≠ '=')) <|
      if '=' ∈ cs then some ((cs.dropWhile (· ≠ '=')).drop 1) else none
  | '-' :: c :: cs => .short (c :: cs)
  | _ => .plain

/-- Help for the verbs named behind the word `help`. -/
def Request.ofTopics : List String → Request
  | [] => .help (.level .top)
  | ["help"] => .help .help
  | [name] =>
    match Verb.ofName? name with
    | some v => .help (.level (.verb v))
    | none => .misuse
  | _ => .misuse

/-- A reader on one level: what it was given, the flag that waits to be taken, and whether only
names may follow. -/
structure Reader where
  level : Level
  given : Given
  waiting : Option (Flag × Option String)
  namesOnly : Bool
  deriving DecidableEq, Repr

namespace Reader

def start (l : Level) : Reader := ⟨l, ∅, none, false⟩

/-- A step goes on with a reader or ends with an answer. -/
abbrev Step := Except Request Reader

def orMisuse {α : Type} : Option α → Except Request α
  | some a => .ok a
  | none => .error .misuse

def settle (r : Reader) : Step := do
  return { r with given := ← orMisuse (r.given.settle? r.waiting), waiting := none }

def set (r : Reader) (f : Flag) (value : String) : Step := do
  let r ← r.settle
  return { r with given := ← orMisuse (r.given.set? f value) }

/-- A flag of this level with the value that is attached to it, if any. -/
def takeFlag (r : Reader) (f : Flag) (attached : Option String) : Step := do
  if f ∉ r.level.flags then throw .misuse
  match f.takesValue, attached with
  | true, some value => r.set f value
  | true, none => return { ← r.settle with waiting := some (f, none) }
  | false, some _ => throw .misuse
  | false, none =>
    match f with
    | .help => let r ← r.settle; throw (.help (.level r.level))
    | .version => let _ ← r.settle; throw .version
    | f => r.set f ""

/-- Only names to translate may stand free. -/
def takeName (r : Reader) (name : String) : Step := do
  let r ← r.settle
  if r.level = .verb .translate then
    return { r with given := { r.given with names := r.given.names ++ [name] } }
  else throw .misuse

def takePlain (r : Reader) (s : String) : Step :=
  match r.waiting with
  | some (f, none) => .ok { r with waiting := some (f, some s) }
  | _ => r.takeName s

def take (r : Reader) (s : String) : Step :=
  if r.namesOnly then r.takeName s
  else match Token.ofChars s.toList with
    | .escape => .ok { r with namesOnly := true }
    | .long name value => do
      r.takeFlag (← orMisuse (Flag.ofName? (.ofList name))) (value.map .ofList)
    | .short (c :: _) => do r.takeFlag (← orMisuse (Flag.ofLetter? c)) none
    | .short [] | .plain => r.takePlain s

def takeAll (r : Reader) (args : List String) : Step := args.foldlM take r

/-- Whether a word would be taken for a verb: not as the value of a flag, nor behind `--`. -/
def awaitsVerb (r : Reader) : Bool :=
  !r.namesOnly && match r.waiting with
    | some (_, none) => false
    | _ => true

end Reader

/-- The request behind the verb; the flags in front of it are taken over last. -/
def readVerb (top : Reader) (v : Verb) (args : List String) : Except Request Request := do
  let inner ← (← (Reader.start (.verb v)).takeAll args).settle
  let outer ← top.settle
  let config := (inner.given.value? .config).or (outer.given.value? .config)
  return .run config (.ofGiven inner.given v)

def readTop (r : Reader) : List String → Except Request Request
  | [] => .error .misuse
  | arg :: rest =>
    if r.awaitsVerb ∧ arg = "help" then .ok (.ofTopics rest)
    else match r.awaitsVerb, Verb.ofName? arg with
      | true, some v => readVerb r v rest
      | _, _ => do readTop (← r.take arg) rest

def Request.ofArguments (args : List String) : Request :=
  match readTop (.start .top) args with
  | .ok request | .error request => request

end Entitlements.CommandLine
