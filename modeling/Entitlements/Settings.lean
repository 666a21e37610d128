import Entitlements.Decimal.Digits
import Entitlements.Environment
import Entitlements.Failure

set_option autoImplicit false

/-!
Settings from environment variables. A blank variable counts as unset; any other value is taken as
it stands.
-/

namespace Entitlements

structure Settings where
  databaseUrl : Option String
  permissionsPath : String
  langDir : String
  locale : String
  fallbackLocale : String
  tcpPort : Nat
  deriving DecidableEq, Repr

namespace Settings

/-- The variables that settings are read from. -/
def names : List String :=
  ["DATABASE_URL", "PERMISSIONS_CONFIG", "PERMISSIONS_LANG_DIR", "APP_LOCALE",
    "APP_FALLBACK_LOCALE", "APP_PORT"]

/-- A number of 16 bits; a plus sign may stand in front of its digits. -/
def tcpPort? (s : String) : Option Nat :=
  match s.toList with
  | '+' :: ds => Decimal.below? (Nat.pow 2 16) ds
  | ds => Decimal.below? (Nat.pow 2 16) ds

def badTcpPort : Failure := ⟨.configuration, "APP_PORT must be a valid port number"⟩

def noDatabaseUrl : Failure := ⟨.configuration, "DATABASE_URL not set"⟩

def read (e : Environment) : Except Failure Settings := do
  let tcpPort ← match e.nonBlank? "APP_PORT" with
    | none => pure 8000
    | some s => match tcpPort? s with
      | some n => pure n
      | none => throw badTcpPort
  return {
    databaseUrl := e.nonBlank? "DATABASE_URL"
    permissionsPath := (e.nonBlank? "PERMISSIONS_CONFIG").getD "config/permissions.json"
    langDir := (e.nonBlank? "PERMISSIONS_LANG_DIR").getD "lang"
    locale := (e.nonBlank? "APP_LOCALE").getD "en"
    fallbackLocale := (e.nonBlank? "APP_FALLBACK_LOCALE").getD "en"
    tcpPort }

def requireDatabaseUrl (s : Settings) : Except Failure String :=
  match s.databaseUrl with
  | some url => .ok url
  | none => .error noDatabaseUrl

end Settings

end Entitlements
