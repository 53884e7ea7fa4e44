import VehicleRecords.Backend
import VehicleRecords.Sql.Statement
import VehicleRecords.Store.Matching

/-!
A record store in memory. It keeps a log of the operations it was given, each with the SQL that
would be sent to a database.
-/
namespace VehicleRecords.Store

/-- The stored records, in the order of their insertion, and the last id handed out. -/
structure Memory where
  cars : List Car := []
  lastId : Int32 := 0
  deriving DecidableEq, Repr, Inhabited

namespace Memory

/-- Stores one record under the next id, unless its registration number is stored already. Also
counts the records stored. The id counter wraps around; `overflows` tells where a program that checks it
stops instead. -/
def insertOne (acc : Memory × Nat) (car : Car) : Memory × Nat :=
  let (m, count) := acc
  if m.cars.any (·.regNum == car.regNum) then (m, count)
  else
    let id := m.lastId + 1
    (⟨m.cars ++ [{ car with id }], id⟩, count + 1)

def insert (m : Memory) (cars : List Car) : Memory × Nat := cars.foldl insertOne (m, 0)

/-- `insertOne` with its id counter checked: there is no id behind the greatest one. -/
def insertOne? (acc : Memory × Nat) (car : Car) : Option (Memory × Nat) :=
  if acc.1.lastId == Int32.maxValue && !acc.1.cars.any (·.regNum == car.regNum) then none
  else some (insertOne acc car)

def insert? (m : Memory) (cars : List Car) : Option (Memory × Nat) := cars.foldlM insertOne? (m, 0)

def hasId (id : Int64) (car : Car) : Bool := car.id.toInt64 == id

def find? (m : Memory) (id : Int64) : Option Car := m.cars.find? (hasId id)

/-- Another record than `id` holds the registration number that the patch sets. -/
def conflict? (m : Memory) (id : Int64) (patch : CarPatch) : Option String :=
  patch.regNum.bind fun regNum =>
    if m.cars.any fun c => c.regNum == regNum && !hasId id c then some regNum else none

/-- Patches the first record with the id. -/
def patchFirst (id : Int64) (patch : CarPatch) : List Car → List Car
  | [] => []
  | car :: rest =>
    if hasId id car then patch.apply car :: rest else car :: patchFirst id patch rest

/-- Carries out one operation. A failed operation changes nothing. -/
def run (m : Memory) : Operation → Except Error Answer × Memory
  | .insert cars =>
    let (m', count) := m.insert cars
    (.ok (.count count), m')
  | .getById id =>
    match m.find? id with
    | some car => (.ok (.cars [car]), m)
    | none => (.error (.noSuchCar id), m)
  | .query filter pagination =>
    ((select filter m.cars).map fun cars => .cars (pagination.apply cars), m)
  | .updateById id patch =>
    match m.conflict? id patch with
    | some regNum => (.error (.alreadyExists ("reg_num=" ++ regNum)), m)
    | none =>
      match m.find? id with
      | some _ => (.ok (.count 1), { m with cars := patchFirst id patch m.cars })
      | none => (.error (.noSuchCar id), m)
  | .deleteById id =>
    match m.find? id with
    | some _ => (.ok (.count 1), { m with cars := m.cars.filter (!hasId id ·) })
    | none => (.error (.noSuchCar id), m)

/-- The id counter overflows in the operation, which stops the program where counters are checked. -/
def overflows (m : Memory) : Operation → Bool
  | .insert cars => (m.insert? cars).isNone
  | _ => false

end Memory

/-- An operation the store was given, as it would be sent to a database. -/
structure Execution where
  operation : Operation
  compiled : Sql.Compiled
  deriving DecidableEq, Repr

/-- A store in memory with the log of its executions, the latest first. -/
structure LoggedMemory where
  memory : Memory := {}
  log : List Execution := []
  deriving DecidableEq, Repr, Inhabited

namespace LoggedMemory

/-- Compiles the operation, logs it, and carries it out. An operation that does not compile is
neither logged nor carried out. -/
def exec (op : Operation) : StoreM LoggedMemory Answer := fun s =>
  match Sql.compile "cars" [] (.run op) with
  | .error e => (.error e, s)
  | .ok compiled =>
    let (answer, memory) := s.memory.run op
    (answer, ⟨memory, ⟨op, compiled⟩ :: s.log⟩)

def backend : Backend LoggedMemory where
  exec := exec
  pushSchema := pure ()
  reset := modify fun s => { s with memory := {} }

/-- A store that takes filter texts as bare values and has no schema operations. -/
def bareBackend : Backend LoggedMemory where
  grammar := .bareValues
  exec := exec

end LoggedMemory

end VehicleRecords.Store
