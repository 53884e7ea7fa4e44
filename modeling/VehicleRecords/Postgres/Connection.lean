import VehicleRecords.Backend
import VehicleRecords.Postgres.Row
import VehicleRecords.Sql.Statement

/-!
One connection to the server. Statements of a fixed shape are prepared once and kept until the table
is dropped; inserts run in a transaction.
-/
namespace VehicleRecords.Postgres

/-- A statement that the server has prepared. -/
structure Prepared where
  /-- Tells the statements of one server apart. -/
  number : Nat
  /-- The types that the server infers for the placeholders, the first one at zero. -/
  paramType : Nat → SqlType
  columns : Columns

/-- A request that comes back with an answer of type `α`. -/
abbrev Exchange (σ α : Type) := StateM σ (Except Failure α)

/-- A server with states in `σ`, as a connection sees it. -/
structure Server (σ : Type) where
  /-- Runs a statement without parameters. -/
  simple : String → Exchange σ Unit
  prepare : String → Exchange σ Prepared
  /-- Runs a prepared statement and counts the rows it affects. -/
  execute : Prepared → List (Option Bytes) → Exchange σ Nat
  /-- Runs a prepared statement and answers the rows it finds. -/
  query : Prepared → List (Option Bytes) → Exchange σ (List Cells)
  start : Exchange σ Unit
  commit : Exchange σ Unit
  rollback : StateM σ Unit

/-- The state of a connection: its table and the prepared statements it keeps, by SQL text. -/
structure Session where
  table : String
  kept : List (String × Prepared) := []

/-- A computation over a connection and its server. -/
abbrev SessionM (σ : Type) := StoreM (Session × σ)

variable {σ : Type}

/-- Sends one request. -/
def send (exchange : Exchange σ α) : SessionM σ α := fun (session, s) =>
  let (result, s) := exchange s
  (result.mapError Failure.toError, (session, s))

/-- The bytes of parameters, converted from left to right. -/
def encodeParams (p : Prepared) : Nat → List Value → Except Failure (List (Option Bytes))
  | _, [] => .ok []
  | i, value :: rest =>
    let type := p.paramType i
    if type.isAccepted then
      match encode type value with
      | .ok bytes => (encodeParams p (i + 1) rest).map (bytes :: ·)
      | .error e => .error (.bind e)
    else .error (.client ("error serializing parameter " ++ toString i))

/-- Converts the parameters and runs a prepared statement with them. -/
def sendWith (p : Prepared) (params : List Value)
    (run : Prepared → List (Option Bytes) → Exchange σ α) : SessionM σ α :=
  match encodeParams p 0 params with
  | .ok bytes => send (run p bytes)
  | .error e => throw e.toError

/-- A prepared statement for an SQL text, the kept one if there is one. -/
def prepareKept (server : Server σ) (sql : String) : SessionM σ Prepared := do
  let (session, _) ← get
  match session.kept.lookup sql with
  | some p => pure p
  | none =>
    let p ← send (server.prepare sql)
    modify fun (session, s) => ({ session with kept := (sql, p) :: session.kept }, s)
    pure p

/-- Compiles a statement for the connection's table. -/
def compile (stmt : Sql.Statement) : SessionM σ Sql.Compiled := do
  let (session, _) ← get
  match Sql.compile session.table [] stmt with
  | .ok compiled => pure compiled
  | .error e => throw e

/-- Inserts one batch after another and counts the rows. -/
def insertBatches (server : Server σ) : List (List Car) → SessionM σ Nat
  | [] => pure 0
  | cars :: rest => do
    let compiled ← compile (.run (.insert cars))
    let p ← send (server.prepare compiled.sql)
    let count ← sendWith p compiled.params server.execute
    return count + (← insertBatches server rest)

/-- Runs a computation, and takes the transaction back when it fails. -/
def orRollback (server : Server σ) (run : SessionM σ α) : SessionM σ α :=
  tryCatch run fun e => do
    modify fun (session, s) => (session, (server.rollback s).2)
    throw e

/-- Saves records in one transaction. -/
def insert (server : Server σ) (cars : List Car) : SessionM σ Answer := do
  let count ← orRollback server do
    send server.start
    insertBatches server (Sql.insertChunks cars)
  send server.commit
  return .count count

/-- The failure of an operation on a record that does not exist. -/
def missing? (affected : Nat) : Operation → Option Error
  | .getById id | .updateById id _ | .deleteById id =>
    if affected = 0 then some (.noSuchCar id) else none
  | .insert _ | .query .. => none

/-- Runs one operation other than an insert. -/
def runStatement (server : Server σ) (op : Operation) : SessionM σ Answer := do
  let stmt := Sql.Statement.run op
  let compiled ← compile stmt
  let p ← if stmt.hasFixedShape then prepareKept server compiled.sql
    else send (server.prepare compiled.sql)
  if stmt.returnsRows then
    let rows ← sendWith p compiled.params server.query
    match rows.mapM (carOfRow p.columns) with
    | .error e => throw e
    | .ok cars =>
      match missing? cars.length op with
      | some e => throw e
      | none => return .cars cars
  else
    let count ← sendWith p compiled.params server.execute
    match missing? count op with
    | some e => throw e
    | none => return .count count

def exec (server : Server σ) : Operation → SessionM σ Answer
  | .insert cars => insert server cars
  | op => runStatement server op

/-- Runs a statement without parameters. -/
def runSchema (server : Server σ) (stmt : Sql.Statement) : SessionM σ Unit := do
  let compiled ← compile stmt
  send (server.simple compiled.sql)

/-- Drops the table and creates it again. What was prepared for the dropped table is not kept. -/
def resetTable (server : Server σ) : SessionM σ Unit := do
  runSchema server (.dropTable true)
  modify fun (session, s) => ({ session with kept := [] }, s)
  runSchema server (.createTable false)

/-- The record store of a connection. -/
def backend (server : Server σ) : Backend (Session × σ) where
  exec := exec server
  pushSchema := runSchema server (.createTable true)
  reset := resetTable server

end VehicleRecords.Postgres
