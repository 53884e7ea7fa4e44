import VehicleRecords.Car
import VehicleRecords.Filter.Pagination
import VehicleRecords.Filter.Predicate

/-!
The operations of a record store and what it answers.
-/
namespace VehicleRecords

inductive Operation where
  /-- Saves records, skipping registration numbers that are stored already. -/
  | insert (cars : List Car)
  | deleteById (id : Int64)
  | getById (id : Int64)
  | query (filter : Filter) (pagination : Pagination)
  | updateById (id : Int64) (patch : CarPatch)
  deriving DecidableEq, Repr

def Operation.name : Operation → String
  | insert _ => "insert"
  | deleteById _ => "delete_by_id"
  | getById _ => "get_by_id"
  | query _ _ => "query"
  | updateById _ _ => "update_by_id"

/-- A row count or the records found. -/
inductive Answer where
  | count (n : Nat)
  | cars (found : List Car)
  deriving DecidableEq, Repr

namespace Answer

def isCount : Answer → Bool
  | count _ => true
  | cars _ => false

def isCars : Answer → Bool
  | count _ => false
  | cars _ => true

def toCount : Answer → Except Error Nat
  | count n => .ok n
  | cars _ => .error (.adhoc "expected a row count, got records")

def toCars : Answer → Except Error (List Car)
  | cars found => .ok found
  | count _ => .error (.adhoc "expected records, got a row count")

end Answer

/-- The failure of looking up an id that no record has. -/
def Error.noSuchCar (id : Int64) : Error := .recordNotFound ("car_id=" ++ toString id.toInt)

end VehicleRecords
