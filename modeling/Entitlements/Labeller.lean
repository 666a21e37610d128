import Entitlements.Dictionary
import Entitlements.Text.Blank
import Entitlements.Text.Case

set_option autoImplicit false

/-!
Labels of permission names. A name is looked up by its key: small letters, separators turned into
spaces, one space between words. A key without a label of its own is read as an action and a
resource, in this order or else in the other, and both parts are looked up.
-/

namespace Entitlements

/-- Marks that separate the words of a name. -/
def separator (c : Char) : Bool := c == '.' || c == '-' || c == ':' || c == '/'

def normalizeChars (cs : List Char) : List Char :=
  Text.unwords <| Text.tokens Text.blank <|
    (Text.lowerChars (Text.trimChars cs)).map fun c => if separator c then ' ' else c

def normalizeKey (s : String) : String := .ofList (normalizeChars s.toList)

inductive Section where
  | special | dictionary | actions | resources
  deriving DecidableEq, Repr

def Section.name : Section → String
  | .special => "special"
  | .dictionary => "dictionary"
  | .actions => "actions"
  | .resources => "resources"

/-- Looks up one locale and, for what that lacks, another. -/
structure Labeller where
  dictionary : Dictionary
  locale : String
  fallback : Option String

namespace Labeller

def new (dictionary : Dictionary) (locale : String) : Labeller := ⟨dictionary, locale, none⟩

/-- The locale itself is no fallback. -/
def withFallback (t : Labeller) (locale : String) : Labeller :=
  if locale = t.locale then t else { t with fallback := some locale }

def lookup? (t : Labeller) (s : Section) (key : String) : Option String :=
  let key := s.name ++ "." ++ key
  (t.dictionary.get? t.locale key).or (t.fallback.bind (t.dictionary.get? · key))

def sentence (ws : List String) : String := .ofList (Text.unwords (ws.map String.toList))

def action (t : Labeller) (a : String) : String :=
  ((t.lookup? .actions a).or (t.lookup? .dictionary a)).getD a

/-- A resource without an entry is put together from the labels of its words. -/
def resource (t : Labeller) (r : String) : String :=
  let lookup? := fun s => (t.lookup? .resources s).or (t.lookup? .dictionary s)
  (lookup? r).getD <| sentence <|
    (Text.tokensWhere (fun c => c == ' ' || c == '_') r).map fun w => (lookup? w).getD w

/-- Action and resource as a phrase, unless both come back as they were. -/
def phrase? (t : Labeller) (a r : String) : Option String :=
  if t.action a = a ∧ t.resource r = r then none
  else some (Text.trim (t.action a ++ " " ++ t.resource r))

/-- The phrase with the action first, else with the action last. -/
def compound? (t : Labeller) (first : String) (rest : List String) : Option String :=
  (t.phrase? first (sentence rest)).or <|
    t.phrase? ((first :: rest).getLastD first) (sentence (first :: rest).dropLast)

def label (t : Labeller) (name : String) : String :=
  let key := normalizeKey name
  match (t.lookup? .special key).or (t.lookup? .dictionary key) with
  | some label => label
  | none =>
    match Text.splitWhere (· == ' ') key with
    | first :: second :: rest => (t.compound? first (second :: rest)).getD name
    | _ => ((t.lookup? .actions key).or (t.lookup? .resources key)).getD name

/-- The labels of several names, each name once. -/
def labels (t : Labeller) (names : List String) : OrderedMap String :=
  .ofList (names.map fun n => (n, t.label n))

end Labeller

end Entitlements
