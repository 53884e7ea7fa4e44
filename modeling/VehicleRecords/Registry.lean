import VehicleRecords.Http.Status
import VehicleRecords.Json.Cars
import VehicleRecords.Json.Value
import VehicleRecords.Text.Form
import VehicleRecords.Uri

/-!
The registry that knows which vehicle bears a registration number. It is asked with a request to one
URL, whose query gets the number as one more parameter, and answers with a record in JSON.
-/
namespace VehicleRecords

/-- A registry at a URL. -/
structure Registry where
  base : Url
  deriving DecidableEq, Repr

namespace Registry

/-- What a server answers: a status code and, unless reading it fails, a body. -/
structure Reply where
  status : Nat
  body : Except Error Bytes

def ofText (base : String) : Except Error Registry := do
  let base ← Url.ofText base
  if base.scheme != "http" then
    throw (.adhoc ("registry URL must use the `http` scheme; url=" ++ base.text))
  return ⟨base⟩

/-- The parameter that holds a registration number. -/
def parameter (regNum : String) : String := String.ofList (Text.Form.encodePair ("regNum", regNum))

/-- A query with one more parameter. -/
def appendParameter (query : Option String) (parameter : String) : String :=
  match query with
  | none | some "" => parameter
  | some query => query ++ "&" ++ parameter

/-- The URL of the question about a registration number. -/
def question (r : Registry) (regNum : String) : Url :=
  { r.base with query := some (appendParameter r.base.query (parameter regNum)) }

/-- What is asked for a registration number, as a client sends it. -/
def url (r : Registry) (regNum : String) : Except Error Uri :=
  (Uri.ofText (r.question regNum).text).mapError fun problem => .driver ⟨problem.message, []⟩

/-- What a request asks the server for: the path and the query of its URI. -/
def requestTarget (u : Uri) : String := u.path ++ Url.marked "?" u.query

/-- A status code and its phrase. -/
def statusText (status : Nat) : String :=
  toString status ++ " " ++ (Http.reasonPhrase? status).getD "<unknown status code>"

/-- The record in a body. -/
def readCar (body : Bytes) : Except Error Car :=
  match Json.Tree.ofBytes? body with
  | none => .error (.foreign Json.Problem.malformed.message)
  | some value =>
    if value.isNothing then .error (.adhoc "empty car info response")
    else (Json.carRecord.read value).mapError fun problem => .foreign problem.valueMessage

/-- Asks a server through `send` for the record with a registration number. -/
def lookup (r : Registry) (send : Uri → Except Error Reply) (regNum : String) : Except Error Car := do
  let reply ← send (← r.url regNum)
  if reply.status ≠ 200 then
    throw (.adhoc ("registry responded with " ++ statusText reply.status))
  readCar (← reply.body)

end Registry

end VehicleRecords
