import VehicleRecords.Text.Quoted

/-!
Bound query parameters. Every caller-supplied text reaches a store as a value, never as query text.
-/
namespace VehicleRecords

inductive Value where
  | null
  | int (n : Int64)
  | text (s : String)
  deriving DecidableEq, Repr

namespace Value

instance : Inhabited Value := ⟨null⟩

def isNull : Value → Bool
  | null => true
  | _ => false

def text? : Value → Option String
  | text s => some s
  | _ => none

def int? : Value → Option Int64
  | int n => some n
  | _ => none

/-- Counts beyond the greatest signed integer stand for that integer. -/
def ofUInt64 (n : UInt64) : Value :=
  if n.toNat < 9223372036854775808 then int n.toInt64 else int Int64.maxValue

def ofUInt16 (n : UInt16) : Value := int (Int64.ofNat n.toNat)

def ofInt32 (n : Int32) : Value := int n.toInt64

def ofOption (f : α → Value) : Option α → Value
  | none => null
  | some a => f a

/-- How a value is shown to people. -/
def display : Value → String
  | null => "NULL"
  | int n => toString n.toInt
  | text s => Text.quote s

end Value

end VehicleRecords
