import VehicleRecords.Car
import VehicleRecords.Postgres.Failure
import VehicleRecords.Text.Split

/-!
Rows that the server answers with, and the records they hold.
-/
namespace VehicleRecords.Postgres

/-- The name and the type of a column. -/
abbrev Columns := List (String × SqlType)

/-- The bytes of a row's cells in the order of the columns; a null cell has none. -/
abbrev Cells := List (Option Bytes)

/-- The position of a column. A name in another letter case will do if the exact one is missing. -/
def indexOf? (columns : Columns) (name : String) : Option Nat :=
  match columns.findIdx? (·.1 == name) with
  | some i => some i
  | none => columns.findIdx? fun c => Text.sameWord c.1 name

/-- The bytes of the named cell, when its column has an expected type. -/
def cell (columns : Columns) (cells : Cells) (name : String) (expects : SqlType → Bool) :
    Except Error Bytes :=
  match (indexOf? columns name).bind fun i => columns[i]?.map (i, ·) with
  | none => .error (Failure.client ("invalid column `" ++ name ++ "`")).toError
  | some (i, column) =>
    if expects column.2 then
      match (cells[i]?).join with
      | some bytes => .ok bytes
      | none => .error (unreadable i)
    else .error (unreadable i)
where
  unreadable (i : Nat) : Error :=
    (Failure.client ("error deserializing column " ++ toString i)).toError

/-- The named cell as an integer of four bytes. -/
def integerCell (columns : Columns) (cells : Cells) (name : String) : Except Error Int := do
  let bytes ← cell columns cells name (· == .int4)
  if bytes.length = 4 then return ofBigEndian bytes
  else throw (Failure.client "error deserializing an integer").toError

/-- The named cell as a text. -/
def textCell (columns : Columns) (cells : Cells) (name : String) : Except Error String := do
  let bytes ← cell columns cells name SqlType.isText
  match Text.Utf8.decode? bytes with
  | some s => return String.ofList s
  | none => throw (Failure.client "error deserializing a text").toError

/-- The record that a row holds. The year is stored in a wider type than records have. -/
def carOfRow (columns : Columns) (cells : Cells) : Except Error Car := do
  let text (c : Column) := textCell columns cells c.name
  let year ← integerCell columns cells Column.year.name
  let id ← integerCell columns cells idColumn
  let regNum ← text .regNum
  let mark ← text .mark
  let model ← text .model
  if ¬ Text.IntegerRange.uint16.contains year then
    throw (.adhoc ("stored year out of range: " ++ toString year))
  let name ← text .ownerName
  let surname ← text .ownerSurname
  let patronymic ← text .ownerPatronymic
  return ⟨.ofInt id, regNum, mark, model, .ofNat year.toNat, ⟨name, surname, patronymic⟩⟩

end VehicleRecords.Postgres
