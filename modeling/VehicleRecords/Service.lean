import VehicleRecords.Backend
import VehicleRecords.Validator

/-!
The business operations on vehicle records: what is checked before a store is touched.
-/
namespace VehicleRecords

/-- A record service over a store with states in `σ`. -/
structure Service (σ : Type) where
  backend : Backend σ
  /-- Resolves a registration number to the full record. -/
  lookup : String → Except Error Car
  validator : Validator
  policy : FilterPolicy := .skip
  currentYear : Nat

namespace Service

variable {σ : Type}

/-- The records of all numbers, unless one of them cannot be resolved. -/
def resolve (lookup : String → Except Error Car) : List String → Except Error (List Car)
  | [] => .ok []
  | regNum :: rest =>
    match lookup regNum with
    | .error e => .error (.registryLookup regNum e)
    | .ok car => (resolve lookup rest).map (car :: ·)

/-- Looks every number up and saves the records. Nothing is saved when a lookup fails. Answers the
number of new records. -/
def addCars (s : Service σ) (regNums : List String) : StoreM σ Nat :=
  if regNums.isEmpty then throw (.validation "regNums" "must not be empty")
  else
    match resolve s.lookup regNums with
    | .error e => throw e
    | .ok cars => s.backend.addCars cars

def getCar (s : Service σ) (id : Int64) : StoreM σ Car := s.backend.getCar id

def listCars (s : Service σ) (filter : Filter) (pagination : Pagination) : StoreM σ (List Car) :=
  s.backend.listCars filter pagination

/-- Checks a patch and applies it. -/
def editCar (s : Service σ) (id : Int64) (patch : CarPatch) : StoreM σ Unit :=
  match s.validator.validate s.currentYear patch with
  | .error e => throw e
  | .ok () => if patch.isEmpty then throw .noFieldsToUpdate else s.backend.updateCar id patch

def deleteCar (s : Service σ) (id : Int64) : StoreM σ Unit := s.backend.deleteCar id

/-- Reads raw filter fields with the grammar of the store. -/
def buildFilter (s : Service σ) (fields : List (Column × String)) : Except Error Filter :=
  Filter.build s.backend.grammar s.policy fields

end Service

end VehicleRecords
