import VehicleRecords.Error
import VehicleRecords.Postgres.Bind

/-!
What can go wrong while talking to the server, and what that means here. Input that the store cannot
use is a failed validation and not a failure of the store.
-/
namespace VehicleRecords.Postgres

/-- An error that the server reports. -/
structure ServerError where
  code : String
  message : String
  detail : Option String := none
  deriving DecidableEq, Repr

/-- How an error of the server is shown. -/
def ServerError.text (e : ServerError) : String :=
  "ERROR: " ++ e.message ++ (e.detail.map ("\nDETAIL: " ++ ·)).getD ""

inductive Failure where
  | server (e : ServerError)
  /-- A parameter cannot be converted. -/
  | bind (e : BindError)
  /-- The connection is unusable, or an answer of the server is. -/
  | client (text : String)
  deriving DecidableEq, Repr

namespace ServerError

/-- A value is stored already where it has to be unique. -/
def isUniqueViolation (e : ServerError) : Bool := e.code == "23505"

/-- A data exception, or an operator that a column's type lacks. -/
def rejectsInput (e : ServerError) : Bool := e.code == "42883" || "22".isPrefixOf e.code

end ServerError

def Failure.toError : Failure → Error
  | bind e => .validation "value" e.message
  | server e =>
    if e.isUniqueViolation then .alreadyExists (e.detail.getD "")
    else if e.rejectsInput then .validation "filter" e.message
    else .driver ⟨"db error", [e.text]⟩
  | client text => .driver ⟨text, []⟩

end VehicleRecords.Postgres
