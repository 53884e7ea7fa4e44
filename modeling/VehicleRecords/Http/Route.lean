import VehicleRecords.Http.Status
import VehicleRecords.Text.Split

/-!
The endpoints of the API.
-/
namespace VehicleRecords.Http

/-- An endpoint, with the id of the vehicle as it stands in the path. -/
inductive Route where
  | addCars
  | getCar (id : String)
  | listCars
  | editCar (id : String)
  | deleteCar (id : String)
  deriving DecidableEq, Repr

namespace Route

/-- The method of an endpoint. -/
def method : Route → String
  | addCars => "POST"
  | getCar _ | listCars => "GET"
  | editCar _ => "PATCH"
  | deleteCar _ => "DELETE"

/-- The endpoint of a path. Empty segments do not count. -/
def ofPath? (path : String) : Option Route :=
  match ((Text.cut '/' path.toList).filter (!·.isEmpty)).map String.ofList with
  | ["api", "cars", "add"] => some addCars
  | ["api", "cars"] => some listCars
  | ["api", "car", id] => some (getCar id)
  | ["api", "car", id, "edit"] => some (editCar id)
  | ["api", "car", id, "delete"] => some (deleteCar id)
  | _ => none

/-- The endpoint of a request line. A path has one method only. -/
def resolve (method path : String) : Except Status Route :=
  match ofPath? path with
  | none => .error .notFound
  | some route => if route.method = method then .ok route else .error .methodNotAllowed

end Route

end VehicleRecords.Http
