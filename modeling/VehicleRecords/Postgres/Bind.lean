import VehicleRecords.Text.Blank
import VehicleRecords.Text.Integer
import VehicleRecords.Text.Utf8
import VehicleRecords.Value

/-!
Parameters in the binary format of the server. A value is converted to whatever type the server
infers for its placeholder; filter values arrive as text, so a text may stand for an integer.
-/
namespace VehicleRecords.Postgres

/-- A type of the server, as far as it matters here. -/
inductive SqlType where
  | int2
  | int4
  | int8
  | text
  | varchar
  | other (name : String)
  deriving DecidableEq, Repr

namespace SqlType

def name : SqlType → String
  | int2 => "int2"
  | int4 => "int4"
  | int8 => "int8"
  | text => "text"
  | varchar => "varchar"
  | other name => name

def ofName (name : String) : SqlType :=
  ([int2, int4, int8, text, varchar].find? (·.name == name)).getD (other name)

/-- The range and the number of bytes of an integer type. -/
def integer? : SqlType → Option (Text.IntegerRange × Nat)
  | int2 => some (.int16, 2)
  | int4 => some (.int32, 4)
  | int8 => some (.int64, 8)
  | _ => none

def isText (t : SqlType) : Bool := t == text || t == varchar

/-- Values can be written as this type. -/
def isAccepted (t : SqlType) : Bool := t.integer?.isSome || t.isText

end SqlType

/-- A value without meaning in the type it is bound to. -/
structure BindError where
  value : String
  type : SqlType
  deriving DecidableEq, Repr

def BindError.message (e : BindError) : String :=
  "`" ++ e.value ++ "` is not a valid " ++ e.type.name

/-- The two's complement of an integer in `size` bytes, the highest byte first. -/
def bigEndian (size : Nat) (n : Int) : Bytes :=
  (List.range size).reverse.map fun i => UInt8.ofNat ((n / Int.pow 256 i) % 256).toNat

/-- The integer that bytes are the two's complement of. -/
def ofBigEndian (bytes : Bytes) : Int :=
  let n : Int := bytes.foldl (fun n b => n * 256 + b.toNat) (0 : Nat)
  if n < Int.pow 256 bytes.length / 2 then n else n - Int.pow 256 bytes.length

/-- The text of a value, as messages show it. -/
def shown : Value → String
  | .null => "NULL"
  | .int n => toString n.toInt
  | .text s => s

/-- The integer that a value means. White space around a text does not count. -/
def integerOf? (range : Text.IntegerRange) : Value → Option Int
  | .null => none
  | .int n => if range.contains n.toInt then some n.toInt else none
  | .text s => (range.read (Text.trim s.toList)).toOption

/-- The bytes of a value as an accepted type; a null has none. -/
def encode (type : SqlType) (value : Value) : Except BindError (Option Bytes) :=
  match value, type.integer? with
  | .null, _ => .ok none
  | value, some (range, size) =>
    match integerOf? range value with
    | some n => .ok (some (bigEndian size n))
    | none => .error ⟨shown value, type⟩
  | value, none => .ok (some (bytesOf (shown value)))

end VehicleRecords.Postgres
