import VehicleRecords.Pool
import VehicleRecords.Postgres.Connection

/-!
A server that plays a script and keeps a log of all that it sees.
-/
namespace VehicleRecords.Postgres

/-- What the server does until the script is changed. -/
structure Script where
  /-- The types of the placeholders, repeated as often as needed; without any all are texts. -/
  types : List SqlType := []
  columns : Columns := []
  rows : List Cells := []
  affected : Nat := 0
  startError : Option ServerError := none
  commitError : Option ServerError := none
  prepareError : Option ServerError := none
  executeError : Option ServerError := none
  dropError : Option ServerError := none
  createError : Option ServerError := none
  /-- The server goes away at the next request. -/
  leaves : Bool := false
  deriving Repr

/-- A request as the server sees it, or its going away. -/
inductive Event where
  | simple (sql : String)
  | start
  | commit
  | rollback
  | prepare (sql : String)
  | execute (statement : Nat) (params : List (Option Bytes))
  | gone
  deriving DecidableEq, Repr

structure ScriptedServer where
  script : Script := {}
  isGone : Bool := false
  /-- What the server has seen, the latest first. -/
  log : List Event := []
  /-- The number of statements prepared so far. -/
  prepared : Nat := 0

namespace ScriptedServer

/-- Sees one request and answers it with an error or with `result`. -/
def see (event : Event) (error? : Script → Option ServerError)
    (result : StateM ScriptedServer α) : Exchange ScriptedServer α := fun s =>
  if s.isGone then (.error (.client "connection closed"), s)
  else if s.script.leaves then
    (.error (.client "connection closed"), { s with isGone := true, log := .gone :: s.log })
  else
    let s := { s with log := event :: s.log }
    match error? s.script with
    | some e => (.error (.server e), s)
    | none =>
      let (a, s) := result s
      (.ok a, s)

/-- The type of a placeholder. -/
def typeAt (types : List SqlType) (i : Nat) : SqlType := types.getD (i % types.length) .text

def addPrepared : StateM ScriptedServer Prepared := fun s =>
  let number := s.prepared
  (⟨number, typeAt s.script.types, s.script.columns⟩, { s with prepared := number + 1 })

def server : Server ScriptedServer where
  simple sql :=
    see (.simple sql)
      (fun script => if "DROP".isPrefixOf sql then script.dropError else script.createError)
      (pure ())
  prepare sql := see (.prepare sql) Script.prepareError addPrepared
  execute p params :=
    see (.execute p.number params) Script.executeError fun s => (s.script.affected, s)
  query p params := see (.execute p.number params) Script.executeError fun s => (s.script.rows, s)
  start := see .start Script.startError (pure ())
  commit := see .commit Script.commitError (pure ())
  rollback s := ((), (see .rollback (fun _ => none) (pure ()) s).2)

/-- Opens connections for the table `table`, as long as there is a server. -/
def connector (isThere : Bool) (table : String) : Connector ScriptedServer Session where
  connect := if isThere then pure { table } else throw (.driver ⟨"error connecting to server", []⟩)

end ScriptedServer

end VehicleRecords.Postgres
