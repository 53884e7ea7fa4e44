import VehicleRecords.Car
import VehicleRecords.Json.Reading

/-!
Vehicle records, owners and patches as JSON.
-/
namespace VehicleRecords.Json

/-- What has been read of an owner. -/
structure OwnerDraft where
  name : Option String := none
  surname : Option String := none
  patronymic : Option String := none

def ownerRecord : Record OwnerDraft Owner where
  name := "Owner"
  fields := ["name", "surname", "patronymic"]
  draft := {}
  set field value draft :=
    match field with
    | "name" => do return { draft with name := ← Reader.string value }
    | "surname" => do return { draft with surname := ← Reader.string value }
    | _ => do return { draft with patronymic := ← Reader.string value }
  finish missing draft := do
    let name ← required missing "name" draft.name
    let surname ← required missing "surname" draft.surname
    return ⟨name, surname, draft.patronymic.getD ""⟩

/-- What has been read of a vehicle record. -/
structure CarDraft where
  id : Option Int32 := none
  regNum : Option String := none
  mark : Option String := none
  model : Option String := none
  year : Option UInt16 := none
  owner : Option Owner := none

def carRecord : Record CarDraft Car where
  name := "Car"
  fields := ["carId", "regNum", "mark", "model", "year", "owner"]
  draft := {}
  set field value draft :=
    match field with
    | "carId" => do return { draft with id := ← Reader.int32 value }
    | "regNum" => do return { draft with regNum := ← Reader.string value }
    | "mark" => do return { draft with mark := ← Reader.string value }
    | "model" => do return { draft with model := ← Reader.string value }
    | "year" => do return { draft with year := ← Reader.uint16 value }
    | _ => do return { draft with owner := ← ownerRecord.read value }
  finish missing draft := do
    let regNum ← required missing "regNum" draft.regNum
    let mark ← required missing "mark" draft.mark
    let model ← required missing "model" draft.model
    let year ← required missing "year" draft.year
    let owner ← required missing "owner" draft.owner
    return ⟨draft.id.getD 0, regNum, mark, model, year, owner⟩

def ownerPatchRecord : Record OwnerPatch OwnerPatch where
  name := "OwnerPatch"
  fields := ["name", "surname", "patronymic"]
  draft := {}
  set field value draft :=
    match field with
    | "name" => do return { draft with name := ← Reader.string.optional value }
    | "surname" => do return { draft with surname := ← Reader.string.optional value }
    | _ => do return { draft with patronymic := ← Reader.string.optional value }
  finish _ draft := .ok draft

def patchRecord : Record CarPatch CarPatch where
  name := "CarPatch"
  fields := ["regNum", "mark", "model", "year", "owner"]
  draft := {}
  set field value draft :=
    match field with
    | "regNum" => do return { draft with regNum := ← Reader.string.optional value }
    | "mark" => do return { draft with mark := ← Reader.string.optional value }
    | "model" => do return { draft with model := ← Reader.string.optional value }
    | "year" => do return { draft with year := ← Reader.uint16.optional value }
    | _ => do return { draft with owner := ← Reader.optional ownerPatchRecord.read value }
  finish _ draft := .ok draft

/-- The registration numbers of a request to add vehicles. -/
def regNumsRecord : Record (List String) (List String) where
  name := "AddCarsRequest"
  fields := ["regNums"]
  draft := []
  set _ value _ := Reader.string.list value
  finish _ draft := .ok draft

/-- A member that is left out when its value is absent. -/
def present (key : String) (f : α → Tree) : Option α → List (String × Tree)
  | none => []
  | some a => [(key, f a)]

/-- An owner as answers show it, the members in the order of their keys. -/
def ofOwner (o : Owner) : Tree :=
  object [("name", text o.name), ("patronymic", text o.patronymic), ("surname", text o.surname)]

/-- A record as answers show it, the members in the order of their keys. -/
def ofCar (c : Car) : Tree :=
  object [("carId", integer c.id.toInt), ("mark", text c.mark), ("model", text c.model),
    ("owner", ofOwner c.owner), ("regNum", text c.regNum), ("year", integer c.year.toNat)]

def ofOwnerPatch (p : OwnerPatch) : Tree :=
  object (present "name" text p.name ++ present "surname" text p.surname ++
    present "patronymic" text p.patronymic)

def ofPatch (p : CarPatch) : Tree :=
  object (present "regNum" text p.regNum ++ present "mark" text p.mark ++
    present "model" text p.model ++ present "year" (fun y => integer y.toNat) p.year ++
    present "owner" ofOwnerPatch p.owner)

end VehicleRecords.Json
