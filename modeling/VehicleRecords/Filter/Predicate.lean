import VehicleRecords.Column
import VehicleRecords.Text.Split

/-!
Filter conditions and the tokens they are written as: `[and|or:]operator:value`, or a bare value,
which is compared for equality. Keywords are read in any ASCII case.
-/
namespace VehicleRecords

/-- How a condition joins the one before it. -/
inductive Connective where
  | and
  | or
  deriving DecidableEq, Repr

namespace Connective

def keyword : Connective → String
  | and => "and"
  | or => "or"

def ofKeyword? (word : String) : Option Connective :=
  [and, or].find? fun c => Text.sameWord c.keyword word

end Connective

inductive Operator where
  | eq
  | ne
  | gt
  | ge
  | lt
  | le
  | like
  deriving DecidableEq, Repr

namespace Operator

def all : List Operator := [eq, ne, gt, ge, lt, le, like]

def keyword : Operator → String
  | eq => "eq"
  | ne => "neq"
  | gt => "gt"
  | ge => "get"
  | lt => "lt"
  | le => "let"
  | like => "like"

def ofKeyword? (word : String) : Option Operator :=
  all.find? fun o => Text.sameWord o.keyword word

def ofKeyword (word : String) : Except Error Operator :=
  match ofKeyword? word with
  | some operator => .ok operator
  | none => .error (.invalidOperator word)

/-- Whether an operator other than `like` holds, given how the stored value compares. -/
def holds (operator : Operator) (ordering : Ordering) : Bool :=
  match operator with
  | eq => ordering.isEq
  | ne => ordering.isNe
  | gt => ordering.isGT
  | ge => ordering.isGE
  | lt => ordering.isLT
  | le => ordering.isLE
  | like => false

end Operator

/-- One filter condition. The connective of a filter's first condition means nothing. -/
structure Predicate where
  connective : Connective := .and
  column : Column
  operator : Operator := .eq
  value : String
  deriving DecidableEq, Repr

namespace Predicate

/-- Reads the segments between colons after the cases without an operator. -/
def ofSegments (column : Column) (connective : Connective) :
    List (List Char) → Except Error Predicate
  | [] => .error (.invalidOperator "")
  | keyword :: rest =>
    match Operator.ofKeyword (String.ofList keyword) with
    | .error e => .error e
    | .ok operator =>
      .ok ⟨connective, column, operator, String.ofList ([':'].intercalate rest)⟩

/-- Reads a token. A text whose only colon is its last character has no value; in longer tokens
the value may be empty and may hold colons. -/
def parse (column : Column) (raw : String) : Except Error Predicate :=
  match Text.cut ':' raw.toList with
  | [_] => .ok { column, value := raw }
  | [_, []] => .error (.emptyValue raw)
  | segments =>
    match segments with
    | [] => .error (.invalidOperator "")
    | first :: rest =>
      match Connective.ofKeyword? (String.ofList first) with
      | some connective => ofSegments column connective rest
      | none => ofSegments column .and segments

end Predicate

/-- Conditions in the order in which they are emitted. The empty filter keeps every record. -/
abbrev Filter := List Predicate

end VehicleRecords
