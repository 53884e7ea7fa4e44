import VehicleRecords.Text.Outline

/-!
Failures as chains of causes. Adding context puts a cause in front; what an error *is* is read off
the whole chain, so context of one's own never hides a kind (`is_context`).
-/
namespace VehicleRecords

/-- A failure reported by another component: its text and the texts of what lies behind it. -/
structure Foreign where
  text : String
  sources : List String := []
  deriving DecidableEq, Repr

/-- One link of an error. -/
inductive Cause where
  /-- A failure without a kind of its own. -/
  | adhoc (message : String)
  /-- A filter token that ends in its only colon. -/
  | emptyValue (token : String)
  /-- A filter token whose operator keyword does not exist. -/
  | invalidOperator (keyword : String)
  /-- A name outside the list of columns. -/
  | unknownColumn (name : String)
  /-- A patch without any field. -/
  | noFieldsToUpdate
  /-- A write that collides with a unique column. -/
  | alreadyExists (detail : String)
  /-- No record has the wanted id. -/
  | recordNotFound (detail : String)
  /-- The registry cannot describe a registration number. -/
  | registryLookup (regNum : String)
  /-- A submitted value that breaks a rule. -/
  | validation (field reason : String)
  /-- A failure of a database driver that has no meaning in this domain. -/
  | driver (inner : Foreign)
  /-- A failure of the connection pool. -/
  | connectionPool (inner : Foreign)
  /-- Any other failure of another component. -/
  | foreign (inner : Foreign)
  deriving DecidableEq, Repr

/-- What callers may ask of an error, in order of precedence. -/
inductive ErrorKind where
  | emptyValue
  | invalidOperator
  | unknownColumn
  | noFieldsToUpdate
  | alreadyExists
  | recordNotFound
  | registryLookup
  | validation
  | connectionPool
  | driver
  deriving DecidableEq, Repr

namespace ErrorKind

def all : List ErrorKind :=
  [emptyValue, invalidOperator, unknownColumn, noFieldsToUpdate, alreadyExists, recordNotFound,
    registryLookup, validation, connectionPool, driver]

end ErrorKind

namespace Cause

/-- The kind of a link; ad-hoc and foreign failures have none. -/
def kind? : Cause → Option ErrorKind
  | adhoc _ => none
  | emptyValue _ => some .emptyValue
  | invalidOperator _ => some .invalidOperator
  | unknownColumn _ => some .unknownColumn
  | noFieldsToUpdate => some .noFieldsToUpdate
  | alreadyExists _ => some .alreadyExists
  | recordNotFound _ => some .recordNotFound
  | registryLookup _ => some .registryLookup
  | validation _ _ => some .validation
  | driver _ => some .driver
  | connectionPool _ => some .connectionPool
  | foreign _ => none

/-- A detail is appended after a colon; an empty one is no detail. -/
def withDetail (message detail : String) : String :=
  if detail.isEmpty then message else message ++ ": " ++ detail

/-- The text of one link. Only a driver failure shows what lies behind it. -/
def message : Cause → String
  | adhoc message => message
  | emptyValue token => "empty filter value: `" ++ token ++ "`"
  | invalidOperator keyword => "invalid filter operator: `" ++ keyword ++ "`"
  | unknownColumn name => "unknown column: `" ++ name ++ "`"
  | noFieldsToUpdate => "no fields to update"
  | alreadyExists detail => withDetail "record already exists" detail
  | recordNotFound detail => withDetail "record not found" detail
  | registryLookup regNum => "registry lookup failed for `" ++ regNum ++ "`"
  | validation field reason => "invalid `" ++ field ++ "`: " ++ reason
  | driver inner => ": ".intercalate (inner.text :: inner.sources)
  | connectionPool inner => "connection pool: " ++ inner.text
  | foreign inner => inner.text

/-- The texts behind one link, nearest first. A foreign failure stands behind itself. -/
def sources : Cause → List String
  | c@(driver inner) | c@(connectionPool inner) => c.message :: inner.text :: inner.sources
  | foreign inner => inner.text :: inner.sources
  | _ => []

end Cause

/-- A chain of causes, the outermost first. -/
structure Error where
  outermost : Cause
  behind : List Cause := []
  deriving DecidableEq, Repr

/-- An error that is put in front of another one. It is shared while somebody else holds it too. -/
structure Error.Context where
  error : Error
  shared : Bool := false
  deriving DecidableEq, Repr

namespace Error

instance : Coe Cause Error := ⟨fun c => ⟨c, []⟩⟩

instance : Coe Error Context := ⟨fun e => ⟨e, false⟩⟩

def chain (e : Error) : List Cause := e.outermost :: e.behind

/-- Puts the outermost cause of `consequent` in front of `e`. Nothing is put behind a shared error,
which others see as well: it stays as it is, and `e` is given up. -/
def context (e : Error) (consequent : Context) : Error :=
  if consequent.shared then consequent.error else ⟨consequent.error.outermost, e.chain⟩

def is (e : Error) (kind : ErrorKind) : Bool := e.chain.any (·.kind? == some kind)

/-- The kinds of an error, in order of precedence. -/
def kinds (e : Error) : List ErrorKind := ErrorKind.all.filter e.is

/-- Raised by a filter token. -/
def isFilterError (e : Error) : Bool :=
  e.is .emptyValue || e.is .invalidOperator || e.is .unknownColumn

def message (e : Error) : String := ": ".intercalate (e.chain.map Cause.message)

/-- The texts behind the outermost cause, nearest first. -/
def sources (e : Error) : List String := e.outermost.sources

def adhoc (message : String) : Error := Cause.adhoc message
def emptyValue (token : String) : Error := Cause.emptyValue token
def invalidOperator (keyword : String) : Error := Cause.invalidOperator keyword
def unknownColumn (name : String) : Error := Cause.unknownColumn name
def noFieldsToUpdate : Error := Cause.noFieldsToUpdate
def alreadyExists (detail : String) : Error := Cause.alreadyExists detail
def recordNotFound (detail : String) : Error := Cause.recordNotFound detail
def validation (field reason : String) : Error := Cause.validation field reason
def driver (inner : Foreign) : Error := Cause.driver inner
def connectionPool (inner : Foreign) : Error := Cause.connectionPool inner
def foreign (text : String) : Error := Cause.foreign ⟨text, []⟩

/-- The failure of one lookup, in front of its cause. -/
def registryLookup (regNum : String) (cause : Error) : Error :=
  cause.context (Cause.registryLookup regNum)

theorem chain_context (e c : Error) : (e.context c).chain = c.outermost :: e.chain := rfl

theorem is_context (e : Error) (c : Cause) (kind : ErrorKind) :
    (e.context c).is kind = (c.kind? == some kind || e.is kind) := by
  simp [is, chain_context, List.any_cons]

end Error

open Text (Outline)

/-- The parts of one link, named. -/
def Cause.outline : Cause → Outline
  | adhoc message =>
    .tuple "Adhoc" [.record "AdhocError" [("message", .quoted message)]]
  | emptyValue token =>
    .tuple "EmptyValue" [.record "EmptyValueError" [("token", .quoted token)]]
  | invalidOperator keyword =>
    .tuple "InvalidOperator" [.record "InvalidOperatorError" [("keyword", .quoted keyword)]]
  | unknownColumn name =>
    .tuple "UnknownColumn" [.record "UnknownColumnError" [("name", .quoted name)]]
  | noFieldsToUpdate => .tuple "NoFieldsToUpdate" [.word "NoFieldsToUpdateError"]
  | alreadyExists detail =>
    .tuple "AlreadyExists" [.record "AlreadyExistsError" [("context", detailOutline detail)]]
  | recordNotFound detail =>
    .tuple "RecordNotFound" [.record "RecordNotFoundError" [("context", detailOutline detail)]]
  | registryLookup regNum =>
    .tuple "RegistryLookup" [.record "RegistryLookupError" [("reg_num", .quoted regNum)]]
  | validation field reason =>
    .tuple "Validation"
      [.record "ValidationError" [("field", .quoted field), ("reason", .quoted reason)]]
  | driver inner => .tuple "Driver" [.record "DriverError" [("inner", .quoted inner.text)]]
  | connectionPool inner =>
    .tuple "ConnectionPool" [.record "ConnectionPoolError" [("inner", .quoted inner.text)]]
  | foreign inner => .tuple "Foreign" [.quoted inner.text]
where
  detailOutline (detail : String) : Outline :=
    if detail.isEmpty then .word "None" else .tuple "Some" [.quoted detail]

/-- The parts of an error, each cause nested in the one in front of it. -/
def Error.outline (e : Error) : Outline :=
  link e.outermost e.behind
where
  link (c : Cause) : List Cause → Outline
    | [] => .record "Error" [("kind", c.outline), ("cause", .word "None")]
    | next :: rest =>
      .record "Error" [("kind", c.outline), ("cause", .tuple "Some" [link next rest])]

end VehicleRecords
