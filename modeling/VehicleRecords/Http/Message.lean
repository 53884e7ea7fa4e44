import VehicleRecords.Error
import VehicleRecords.Http.Status
import VehicleRecords.Json.Printer
import VehicleRecords.Text.Split

/-!
Requests and responses. The status and the code of a failure depend on the kinds of its causes only.
-/
namespace VehicleRecords.Http

/-- The path and the query of a request target. -/
structure Target where
  path : String
  query : Option String := none
  deriving DecidableEq, Repr

namespace Target

/-- What follows the scheme and the authority; a target without them is its own path. -/
def dropAuthority (s : List Char) : List Char :=
  match s with
  | '/' :: _ => s
  | s =>
    match Text.cutOnce ':' s with
    | (_, some ('/' :: '/' :: rest)) => rest.dropWhile fun c => c != '/' && c != '?'
    | _ => s

/-- Reads a target. Its fragment does not count. -/
def parse (s : String) : Target :=
  let (s, _) := Text.cutOnce '#' s.toList
  let (path, query) := Text.cutOnce '?' (dropAuthority s)
  ⟨if path.isEmpty then "/" else String.ofList path, query.map String.ofList⟩

end Target

structure Request where
  method : String
  target : Target
  /-- The body, `none` when reading it fails. -/
  body : Option Bytes := some []
  deriving DecidableEq, Repr

structure Response where
  status : Status
  contentType : Option String := none
  body : Bytes := []
  deriving DecidableEq, Repr

namespace Response

open Json (text object)

def json (status : Status) (tree : Json.Tree) : Response :=
  ⟨status, some "application/json", tree.bytes⟩

/-- A failure with a code for programs and a message for people. -/
def failure (status : Status) (code message : String) : Response :=
  json status (object [("error", object [("code", text code), ("message", text message)])])

end Response

/-- The status and the code of a failed operation. -/
def statusOf (e : Error) : Status × String :=
  if e.isFilterError then (.badRequest, "invalid_filter")
  else if e.is .validation then (.badRequest, "invalid_input")
  else if e.is .noFieldsToUpdate then (.badRequest, "no_fields_to_update")
  else if e.is .registryLookup then (.badRequest, "registry_lookup_failed")
  else if e.is .recordNotFound then (.notFound, "not_found")
  else if e.is .alreadyExists then (.conflict, "already_exists")
  else (.internalServerError, "internal")

def Response.ofError (e : Error) : Response :=
  let (status, code) := statusOf e
  failure status code e.message

end VehicleRecords.Http
