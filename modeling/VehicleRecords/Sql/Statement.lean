import VehicleRecords.Operation
import VehicleRecords.Sql.Fragment

/-!
The statements of the record table and their SQL. A statement becomes a list of fragments; its text
and its parameters are two readings of that list.
-/
namespace VehicleRecords.Sql

open Fragment

inductive Statement where
  | createTable (ifNotExists : Bool)
  | dropTable (ifExists : Bool)
  | run (op : Operation)
  deriving DecidableEq, Repr

/-- Most parameters one statement may bind; the wire protocol counts them in a signed 16-bit word. -/
def maxParams : Nat := 32767

/-- Most rows one insert may carry, each binding a value per column. -/
def maxInsertRows : Nat := maxParams / Column.all.length

namespace Statement

def isUpdate : Statement → Bool
  | run (.updateById ..) => true
  | _ => false

/-- The statement answers with records and not with a row count. -/
def returnsRows : Statement → Bool
  | run (.getById _) | run (.query ..) => true
  | _ => false

/-- The SQL text comes from a small set fixed by the columns. A query grows with its filter and an
insert with its batch. -/
def hasFixedShape : Statement → Bool
  | run (.insert _) | run (.query ..) => false
  | _ => true

end Statement

/-- The storage type of a column. -/
def columnType : Column → String
  | .year => "INTEGER NOT NULL"
  | .regNum => "TEXT NOT NULL UNIQUE"
  | .ownerPatronymic => "TEXT NOT NULL DEFAULT ''"
  | .mark | .model | .ownerName | .ownerSurname => "TEXT NOT NULL"

def operatorSymbol : Operator → String
  | .eq => "="
  | .ne => "<>"
  | .gt => ">"
  | .ge => ">="
  | .lt => "<"
  | .le => "<="
  | .like => "LIKE"

def connectiveSymbol : Connective → String
  | .and => "AND"
  | .or => "OR"

/-- The stored columns, without the primary key. -/
def columnList : List Fragment :=
  commaSeparated (Column.all.map fun c => [name c.name])

/-- The columns of a row that is read back, the primary key first. -/
def rowColumns : List Fragment := name idColumn :: word ", " :: columnList

/-- The condition that picks one record. -/
def idCondition (id : Int64) : List Fragment :=
  [word " WHERE ", name idColumn, word " = ", bind (.int id)]

def predicateFragments (p : Predicate) : List Fragment :=
  [name p.column.name, word (" " ++ operatorSymbol p.operator ++ " "), bind (.text p.value)]

/-- A condition after the first one, with its connective. -/
def joinedPredicate (p : Predicate) : List Fragment :=
  word (" " ++ connectiveSymbol p.connective ++ " ") :: predicateFragments p

def filterFragments : Filter → List Fragment
  | [] => []
  | first :: rest => word " WHERE " :: predicateFragments first ++ rest.flatMap joinedPredicate

def paginationFragments (p : Pagination) : List Fragment :=
  if p.isEnabled then
    [word " LIMIT ", bind (.ofUInt64 p.limit), word " OFFSET ", bind (.ofUInt64 p.offset)]
  else []

/-- One row of an insert. -/
def carFragments (car : Car) : List Fragment :=
  word "(" :: commaSeparated (Column.all.map fun c => [bind (car.value c)]) ++ [word ")"]

def assignmentFragments (a : Column × Value) : List Fragment :=
  [name a.1.name, word " = ", bind a.2]

def columnDefinition (c : Column) : List Fragment :=
  [name c.name, word (" " ++ columnType c)]

namespace Statement

/-- The fragments of a statement on the table `table`, up to the closing semicolon. -/
def fragments (table : String) : Statement → List Fragment
  | createTable ifNotExists =>
    [word "CREATE TABLE ", word (if ifNotExists then "IF NOT EXISTS " else ""), name table,
      word " (", name idColumn, word " SERIAL PRIMARY KEY, "] ++
    commaSeparated (Column.all.map columnDefinition) ++ [word ")"]
  | dropTable ifExists =>
    [word "DROP TABLE ", word (if ifExists then "IF EXISTS " else ""), name table]
  | run (.deleteById id) => word "DELETE FROM " :: name table :: idCondition id
  | run (.getById id) =>
    word "SELECT " :: rowColumns ++ word " FROM " :: name table :: idCondition id
  | run (.insert cars) =>
    word "INSERT INTO " :: name table :: word " (" :: columnList ++ word ") VALUES " ::
    commaSeparated (cars.map carFragments) ++
    [word " ON CONFLICT (", name Column.regNum.name, word ") DO NOTHING"]
  | run (.query filter pagination) =>
    word "SELECT " :: rowColumns ++ word " FROM " :: name table ::
    filterFragments filter ++ paginationFragments pagination
  | run (.updateById id patch) =>
    word "UPDATE " :: name table :: word " SET " ::
    commaSeparated (patch.assignments.map assignmentFragments) ++ idCondition id

/-- Refuses the statements that have no valid SQL. -/
def verify : Statement → Except Error Unit
  | run (.updateById _ patch) => if patch.isEmpty then .error .noFieldsToUpdate else .ok ()
  | run (.insert cars) =>
    if cars.isEmpty then .error (.adhoc "cannot insert an empty batch of cars") else .ok ()
  | _ => .ok ()

end Statement

/-- A statement ready to be sent: its text and the parameters after compiling it. -/
structure Compiled where
  sql : String
  params : List Value
  deriving DecidableEq, Repr

/-- Compiles a statement behind the parameters `before`. A refused statement adds none. -/
def compile (table : String) (before : List Value) (stmt : Statement) : Except Error Compiled :=
  match stmt.verify with
  | .error e => .error e
  | .ok () =>
    let fragments := stmt.fragments table ++ [Fragment.word ";"]
    .ok ⟨Fragment.write before.length fragments, before ++ Fragment.values fragments⟩

/-- Splits a batch into inserts of at most `maxInsertRows` rows, in order. A batch that fits, the
empty one too, is one insert. -/
def insertChunks (cars : List Car) : List (List Car) :=
  if cars.length ≤ maxInsertRows then [cars]
  else cars.take maxInsertRows :: insertChunks (cars.drop maxInsertRows)
termination_by cars.length
decreasing_by
  simp only [List.length_drop, maxInsertRows, maxParams, Column.all, List.length_cons,
    List.length_nil] at *
  omega

end VehicleRecords.Sql
