import VehicleRecords.Column
import VehicleRecords.Value

/-!
Vehicle records and sparse patches. A patch has three readings that agree: its fields, its list of
assignments, and what it does to a record.
-/
namespace VehicleRecords

/-- The owner's full name, stored inline on the record. -/
structure Owner where
  name : String := ""
  surname : String := ""
  patronymic : String := ""
  deriving DecidableEq, Repr, Inhabited

structure Car where
  id : Int32 := 0
  regNum : String := ""
  mark : String := ""
  model : String := ""
  year : UInt16 := 0
  owner : Owner := {}
  deriving DecidableEq, Repr, Inhabited

/-- The stored value of one column. -/
def Car.value (car : Car) : Column → Value
  | .regNum => .text car.regNum
  | .mark => .text car.mark
  | .model => .text car.model
  | .year => .ofUInt16 car.year
  | .ownerName => .text car.owner.name
  | .ownerSurname => .text car.owner.surname
  | .ownerPatronymic => .text car.owner.patronymic

structure OwnerPatch where
  name : Option String := none
  surname : Option String := none
  patronymic : Option String := none
  deriving DecidableEq, Repr, Inhabited

/-- A sparse update: an absent field leaves the stored one untouched. -/
structure CarPatch where
  regNum : Option String := none
  mark : Option String := none
  model : Option String := none
  year : Option UInt16 := none
  owner : Option OwnerPatch := none
  deriving DecidableEq, Repr, Inhabited

def OwnerPatch.isEmpty (p : OwnerPatch) : Bool :=
  p.name.isNone && p.surname.isNone && p.patronymic.isNone

def OwnerPatch.apply (p : OwnerPatch) (owner : Owner) : Owner where
  name := p.name.getD owner.name
  surname := p.surname.getD owner.surname
  patronymic := p.patronymic.getD owner.patronymic

namespace CarPatch

def ownerName (p : CarPatch) : Option String := p.owner.bind (·.name)
def ownerSurname (p : CarPatch) : Option String := p.owner.bind (·.surname)
def ownerPatronymic (p : CarPatch) : Option String := p.owner.bind (·.patronymic)

/-- The new value of a column, when the patch sets it. -/
def value? (p : CarPatch) : Column → Option Value
  | .regNum => p.regNum.map .text
  | .mark => p.mark.map .text
  | .model => p.model.map .text
  | .year => p.year.map .ofUInt16
  | .ownerName => p.ownerName.map .text
  | .ownerSurname => p.ownerSurname.map .text
  | .ownerPatronymic => p.ownerPatronymic.map .text

/-- The columns the patch sets, with their new values, in column order. -/
def assignments (p : CarPatch) : List (Column × Value) :=
  Column.all.filterMap fun column => (p.value? column).map (column, ·)

/-- No field is present; an owner without any field counts as absent. -/
def isEmpty (p : CarPatch) : Bool :=
  p.regNum.isNone && p.mark.isNone && p.model.isNone && p.year.isNone &&
    p.owner.all OwnerPatch.isEmpty

/-- Replaces exactly the present fields; the id stays. -/
def apply (p : CarPatch) (car : Car) : Car where
  id := car.id
  regNum := p.regNum.getD car.regNum
  mark := p.mark.getD car.mark
  model := p.model.getD car.model
  year := p.year.getD car.year
  owner := (p.owner.map (·.apply car.owner)).getD car.owner

end CarPatch

end VehicleRecords
