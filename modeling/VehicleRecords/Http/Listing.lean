import VehicleRecords.Column
import VehicleRecords.Filter.Pagination
import VehicleRecords.Text.Form
import VehicleRecords.Text.Integer

/-!
The query string of a listing: filter fields, and the bounds of a page.
-/
namespace VehicleRecords.Http

structure Listing where
  /-- Raw filter texts in column order, those of one column in query order. -/
  fields : List (Column × String) := []
  pagination : Pagination := {}
  deriving DecidableEq, Repr

namespace Listing

/-- A bound of the page. -/
def parseBound (name value : String) : Except String UInt64 :=
  match Text.IntegerRange.uint64.read value.toList with
  | .ok n => .ok (.ofNat n.toNat)
  | .error _ => .error ("`" ++ name ++ "` must be a non-negative integer; got `" ++ value ++ "`")

/-- Reads the bounds among the pairs; a later one replaces an earlier one. -/
def parseBounds (p : Pagination) : List (String × String) → Except String Pagination
  | [] => .ok p
  | (key, value) :: rest =>
    match key with
    | "limit" => do parseBounds { p with limit := ← parseBound "limit" value } rest
    | "offset" => do parseBounds { p with offset := ← parseBound "offset" value } rest
    | _ => parseBounds p rest

/-- The pairs that name a column, in the order of the columns. -/
def columnFields (pairs : List (String × String)) : List (Column × String) :=
  Column.all.flatMap fun column =>
    (pairs.filter (·.1 == column.name)).map fun pair => (column, pair.2)

/-- Reads a query string. Keys that are neither a bound nor a column are left out. -/
def parse (query : Option String) : Except String Listing :=
  let pairs := Text.Form.parse (query.getD "")
  (parseBounds {} pairs).map fun pagination => ⟨columnFields pairs, pagination⟩

end Listing

end VehicleRecords.Http
