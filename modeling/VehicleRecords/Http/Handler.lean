import VehicleRecords.Http.Listing
import VehicleRecords.Http.Message
import VehicleRecords.Http.Route
import VehicleRecords.Json.Cars
import VehicleRecords.Service

/-!
What the service answers to requests.
-/
namespace VehicleRecords.Http

variable {σ : Type}

/-- Runs an operation and answers with what it comes to. -/
def answer (respond : α → Response) (run : StoreM σ α) : StateM σ Response := do
  match ← run.run with
  | .ok a => return respond a
  | .error e => return .ofError e

/-- An answer without content. -/
def done (_ : Unit) : Response := .json .ok (Json.object [])

/-- The id in a path, read before anything else of the request. -/
def withId (id : String) (run : Int64 → StateM σ Response) : StateM σ Response :=
  match Text.IntegerRange.int32.read id.toList with
  | .ok n => run (Int64.ofInt n)
  | .error _ => return .failure .badRequest "invalid_car_id" "car id must be an integer"

/-- The body of a request, decoded. -/
def withBody (read : Json.Reader α) (r : Request) (run : α → StateM σ Response) :
    StateM σ Response :=
  match r.body with
  | none => return .failure .badRequest "invalid_body" "invalid body"
  | some bytes =>
    match Json.decode read bytes with
    | .ok a => run a
    | .error p => return .failure .badRequest "invalid_json" p.message

def listCars (s : Service σ) (query : Option String) : StateM σ Response :=
  match Listing.parse query with
  | .error message => return .failure .badRequest "invalid_query" message
  | .ok listing =>
    match s.buildFilter listing.fields with
    | .error e => return .ofError e
    | .ok filter =>
      answer
        (fun cars => .json .ok (Json.object [("cars", .array (cars.map Json.ofCar))]))
        (s.listCars filter listing.pagination)

def handleRoute (s : Service σ) (r : Request) : Route → StateM σ Response
  | .addCars =>
    withBody Json.regNumsRecord.read r fun regNums =>
      answer (fun _ => { status := .created }) (s.addCars regNums)
  | .getCar id =>
    withId id fun id =>
      answer (fun car => .json .ok (Json.object [("car", Json.ofCar car)])) (s.getCar id)
  | .listCars => listCars s r.target.query
  | .editCar id =>
    withId id fun id =>
      withBody Json.patchRecord.read r fun patch => answer done (s.editCar id patch)
  | .deleteCar id => withId id fun id => answer done (s.deleteCar id)

/-- Answers one request. -/
def handle (s : Service σ) (r : Request) : StateM σ Response :=
  match Route.resolve r.method r.target.path with
  | .ok route => handleRoute s r route
  | .error status => return .failure status "no_route" "no such route"

end VehicleRecords.Http
