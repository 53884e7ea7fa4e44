import VehicleRecords.Car
import VehicleRecords.Filter.Predicate
import VehicleRecords.Store.Like
import VehicleRecords.Text.Blank
import VehicleRecords.Text.Integer

/-!
The meaning of a filter for one record. `and` binds tighter than `or`, so a filter is a row of
groups, each beginning at an `or`; it holds when some group holds. Within a group the conditions
after a false one are not looked at; a condition that is looked at may turn out to be ill-typed.
-/
namespace VehicleRecords.Store

/-- How the stored value compares with the text of a condition. The year compares as a number. -/
def ordering (p : Predicate) (car : Car) : Except Error Ordering :=
  match car.value p.column with
  | .int stored =>
    match Text.IntegerRange.int64.read (Text.trim p.value.toList) with
    | .ok wanted => .ok (compare stored.toInt wanted)
    | .error e => .error (.foreign e.message)
  | .text stored => .ok (compare stored p.value)
  | .null => .ok (compare "" p.value)

/-- Whether one condition holds of a record. -/
def holds (p : Predicate) (car : Car) : Except Error Bool :=
  match p.operator with
  | .like =>
    match (car.value p.column).text? with
    | some stored => .ok (like stored.toList p.value.toList)
    | none => .error (.adhoc "operator does not exist: integer ~~ text")
  | operator => (ordering p car).map operator.holds

/-- Goes on through a filter. `found` says that an earlier group holds, `group` that the conditions
of the current group so far do. -/
def scan (car : Car) (found group : Bool) : List Predicate → Except Error Bool
  | [] => .ok (found || group)
  | p :: rest =>
    let (found, group) :=
      match p.connective with
      | .or => (found || group, true)
      | .and => (found, group)
    if group then
      match holds p car with
      | .ok b => scan car found b rest
      | .error e => .error e
    else scan car found false rest

/-- Whether a record passes a filter. -/
def passes (filter : Filter) (car : Car) : Except Error Bool :=
  match filter with
  | [] => .ok true
  | first :: rest =>
    match holds first car with
    | .ok b => scan car false b rest
    | .error e => .error e

/-- The records that pass a filter, in order, unless one of them cannot be judged. -/
def select (filter : Filter) : List Car → Except Error (List Car)
  | [] => .ok []
  | car :: rest =>
    match passes filter car with
    | .error e => .error e
    | .ok b => (select filter rest).map fun cars => if b then car :: cars else cars

end VehicleRecords.Store
