import VehicleRecords.Error

/-!
The columns of the record table a caller may name. This closed list is the only way from caller text
to a storage identifier.
-/
namespace VehicleRecords

inductive Column where
  | regNum
  | mark
  | model
  | year
  | ownerName
  | ownerSurname
  | ownerPatronymic
  deriving DecidableEq, Repr

namespace Column

/-- Every column, in the order of stored rows, of assignments and of collected filters. -/
def all : List Column :=
  [regNum, mark, model, year, ownerName, ownerSurname, ownerPatronymic]

/-- The name in query strings and in storage. -/
def name : Column → String
  | regNum => "reg_num"
  | mark => "mark"
  | model => "model"
  | year => "year"
  | ownerName => "owner_name"
  | ownerSurname => "owner_surname"
  | ownerPatronymic => "owner_patronymic"

def ofName? (name : String) : Option Column :=
  all.find? (·.name == name)

def ofName (name : String) : Except Error Column :=
  match ofName? name with
  | some column => .ok column
  | none => .error (.unknownColumn name)

theorem mem_all (c : Column) : c ∈ all := by cases c <;> decide

theorem ofName?_name (c : Column) : ofName? c.name = some c := by cases c <;> rfl

theorem name_injective {a b : Column} (h : a.name = b.name) : a = b :=
  Option.some.inj (by rw [← ofName?_name a, ← ofName?_name b, h])

end Column

/-- Name of the primary key column. -/
def idColumn : String := "car_id"

end VehicleRecords
