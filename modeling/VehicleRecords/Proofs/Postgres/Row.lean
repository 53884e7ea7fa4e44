import Mathlib.Data.List.Nodup
import VehicleRecords.Postgres.Row
import VehicleRecords.Proofs.Postgres.Bind

namespace VehicleRecords.Postgres

structure NamedCell where
  column : String × SqlType
  bytes : Option Bytes
  deriving DecidableEq, Repr

def readRow (row : List NamedCell) : Except Error Car :=
  carOfRow (row.map NamedCell.column) (row.map NamedCell.bytes)

section Cells

variable {row : List NamedCell} (hnames : (row.map (·.column.1)).Nodup)

include hnames

theorem indexOf?_of_getElem {i : Nat} (hi : i < row.length) :
    indexOf? (row.map NamedCell.column) row[i].column.1 = some i := by
  have hfind : (row.map NamedCell.column).findIdx? (·.1 == row[i].column.1) = some i := by
    rw [List.findIdx?_eq_some_iff_getElem]
    refine ⟨by rwa [List.length_map], by rw [List.getElem_map, beq_self_eq_true], ?_⟩
    intro j hj heq
    rw [List.getElem_map, beq_iff_eq] at heq
    have hlength : (row.map (·.column.1)).length = row.length := List.length_map _
    -- Of two columns with one name the first would hide the second.
    refine List.pairwise_iff_getElem.1 hnames j i (by omega) (by omega) hj ?_
    rw [List.getElem_map, List.getElem_map, heq]
  rw [indexOf?, hfind]

/-- The names of columns differ, so a name leads to its own cell. -/
theorem cell_of_mem {name : String} {type : SqlType} {bytes : Bytes}
    (hmem : ⟨(name, type), some bytes⟩ ∈ row) {expects : SqlType → Bool}
    (htype : expects type = true) :
    cell (row.map NamedCell.column) (row.map NamedCell.bytes) name expects = .ok bytes := by
  obtain ⟨i, hi, hrow⟩ := List.mem_iff_getElem.1 hmem
  have hindex := indexOf?_of_getElem hnames hi
  rw [hrow] at hindex
  have hcolumn : (row.map NamedCell.column)[i]? = some (name, type) := by
    rw [List.getElem?_map, List.getElem?_eq_getElem hi, hrow]
    rfl
  have hbytes : (row.map NamedCell.bytes)[i]? = some (some bytes) := by
    rw [List.getElem?_map, List.getElem?_eq_getElem hi, hrow]
    rfl
  rw [cell, hindex, Option.bind_some, hcolumn, Option.map_some]
  dsimp only
  rw [if_pos htype, hbytes]
  rfl

theorem textCell_of_mem {name s : String} (hmem : ⟨(name, .text), some (bytesOf s)⟩ ∈ row) :
    textCell (row.map NamedCell.column) (row.map NamedCell.bytes) name = .ok s := by
  have htext : Text.Utf8.decode? (bytesOf s) = some s.toList := Text.Utf8.decode?_encode s.toList
  rw [textCell, cell_of_mem hnames hmem rfl]
  simp only [bind, Except.bind, htext, String.ofList_toList]
  rfl

theorem integerCell_of_mem {name : String} {n : Int}
    (hmem : ⟨(name, .int4), some (bigEndian 4 n)⟩ ∈ row)
    (hn : Text.IntegerRange.int32.contains n = true) :
    integerCell (row.map NamedCell.column) (row.map NamedCell.bytes) name = .ok n := by
  rw [Text.IntegerRange.contains_iff] at hn
  have hread : ofBigEndian (bigEndian 4 n) = n := by
    have hhalf : Int.pow 256 4 / 2 = 2147483648 := by decide
    refine ofBigEndian_bigEndian ?_ ?_ <;> rw [hhalf]
    · exact hn.1
    · exact Int.lt_add_one_of_le hn.2
  rw [integerCell, cell_of_mem hnames hmem rfl]
  simp only [bind, Except.bind, length_bigEndian, if_true, hread]
  rfl

end Cells

def storedType : Column → SqlType
  | .year => .int4
  | _ => .text

def columnBytes (car : Car) : Column → Bytes
  | .regNum => bytesOf car.regNum
  | .mark => bytesOf car.mark
  | .model => bytesOf car.model
  | .year => bigEndian 4 car.year.toNat
  | .ownerName => bytesOf car.owner.name
  | .ownerSurname => bytesOf car.owner.surname
  | .ownerPatronymic => bytesOf car.owner.patronymic

theorem encode_value (car : Car) (c : Column) :
    encode (storedType c) (car.value c) = .ok (some (columnBytes car c)) := by
  cases c with
  | year => exact encode_year car.year
  | _ => exact encode_text _

/-- The row of a record, without its id. -/
def recordRow (car : Car) : List NamedCell :=
  Column.all.map fun c => ⟨(c.name, storedType c), some (columnBytes car c)⟩

def idCell (id : Int32) : NamedCell := ⟨(idColumn, .int4), some (bigEndian 4 id.toInt)⟩

/-- A record is read back from its cells in any order. -/
theorem readRow_of_perm {car : Car} {id : Int32} {answer : List NamedCell}
    (h : answer.Perm (idCell id :: recordRow car)) : readRow answer = .ok { car with id := id } := by
  have hnames : (answer.map (·.column.1)).Nodup := by
    have hcolumns : (answer.map (·.column.1)).Perm (idColumn :: Column.all.map Column.name) :=
      h.map _
    exact hcolumns.nodup_iff.2 (by decide)
  -- Each cell is found by its name; the order of the reading is the one of `carOfRow`.
  have hcell (c : Column) : ⟨(c.name, storedType c), some (columnBytes car c)⟩ ∈ answer :=
    h.mem_iff.2 (List.mem_cons_of_mem _ (List.mem_map_of_mem (Column.mem_all c)))
  have hid := integerCell_of_mem hnames (h.mem_iff.2 List.mem_cons_self) (Text.IntegerRange.contains_int32 id)
  have hyear := integerCell_of_mem hnames (hcell .year) (contains_year car.year)
  have hreg := textCell_of_mem hnames (hcell .regNum)
  have hmark := textCell_of_mem hnames (hcell .mark)
  have hmodel := textCell_of_mem hnames (hcell .model)
  have hname := textCell_of_mem hnames (hcell .ownerName)
  have hsurname := textCell_of_mem hnames (hcell .ownerSurname)
  have hpatronymic := textCell_of_mem hnames (hcell .ownerPatronymic)
  rw [readRow, carOfRow]
  simp only [bind, Except.bind, hid, hyear, hreg, hmark, hmodel, hname, hsurname, hpatronymic,
    Text.IntegerRange.contains_uint16 car.year, Int32.ofInt_toInt, Int.toNat_natCast, UInt16.ofNat_toNat]
  rfl

end VehicleRecords.Postgres
