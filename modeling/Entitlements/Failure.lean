import Entitlements.Json.Basic

set_option autoImplicit false

/-!
Failures as callers see them: a kind with a status, and a message that names the kind. What went
wrong in the database is not told.
-/

namespace Entitlements

inductive Failure.Kind where
  | notFound | badRequest | configuration | definition | database | io | internal
  deriving DecidableEq, Repr

structure Failure where
  kind : Failure.Kind
  detail : String
  deriving DecidableEq, Repr

namespace Failure

def Kind.name : Kind → String
  | .notFound => "not_found"
  | .badRequest => "bad_request"
  | .configuration => "configuration"
  | .definition => "definition"
  | .database => "database"
  | .io => "io"
  | .internal => "internal"

def Kind.all : List Kind :=
  [.notFound, .badRequest, .configuration, .definition, .database, .io, .internal]

def Kind.ofName? (s : String) : Option Kind := all.find? (·.name == s)

def Kind.status : Kind → Nat
  | .notFound => 404
  | .badRequest => 400
  | .definition => 422
  | .configuration | .database | .io | .internal => 500

def message (f : Failure) : String :=
  match f.kind with
  | .notFound => "not found: " ++ f.detail
  | .badRequest => "bad request: " ++ f.detail
  | .configuration => "configuration error: " ++ f.detail
  | .definition => "invalid definition: " ++ f.detail
  | .database => "database error"
  | .io => "io error: " ++ f.detail
  | .internal => "internal server error: " ++ f.detail

def toJson (f : Failure) : Json :=
  .object [("error", .string f.kind.name), ("message", .string f.message)]

def database : Failure := ⟨.database, ""⟩

end Failure

end Entitlements
