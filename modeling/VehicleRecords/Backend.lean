import VehicleRecords.Filter.Grammar
import VehicleRecords.Operation

/-!
What a record store can do, whatever holds the records, and the record operations built on it.
-/
namespace VehicleRecords

/-- A computation over a store in state `σ`. The state it reaches stays when it fails. -/
abbrev StoreM (σ : Type) := ExceptT Error (StateM σ)

/-- A record store with states in `σ`. -/
structure Backend (σ : Type) where
  /-- How the store reads filter texts. -/
  grammar : Grammar := .tokens
  exec : Operation → StoreM σ Answer
  /-- Creates the record table if it does not exist yet. -/
  pushSchema : StoreM σ Unit := throw (.adhoc "push_schema is not supported by this connection")
  /-- Drops the record table and creates it empty. -/
  reset : StoreM σ Unit := throw (.adhoc "reset_db is not supported by this connection")

namespace Backend

variable {σ : Type}

/-- Saves records and answers how many are new. -/
def addCars (b : Backend σ) (cars : List Car) : StoreM σ Nat := do
  (← b.exec (.insert cars)).toCount

def getCar (b : Backend σ) (id : Int64) : StoreM σ Car := do
  match ← (← b.exec (.getById id)).toCars with
  | car :: _ => pure car
  | [] => throw (.noSuchCar id)

def listCars (b : Backend σ) (filter : Filter) (pagination : Pagination) : StoreM σ (List Car) := do
  (← b.exec (.query filter pagination)).toCars

def updateCar (b : Backend σ) (id : Int64) (patch : CarPatch) : StoreM σ Unit := do
  let _ ← b.exec (.updateById id patch)

def deleteCar (b : Backend σ) (id : Int64) : StoreM σ Unit := do
  let _ ← b.exec (.deleteById id)

end Backend

end VehicleRecords
