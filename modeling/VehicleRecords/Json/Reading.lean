import VehicleRecords.Json.Tree
import VehicleRecords.Text.Quoted

/-!
Reading typed values from JSON. A record is read from an object, or from an array that holds its
fields in order. Problems are found in the order of the text.
-/
namespace VehicleRecords.Json

/-- Why a text is not what was wanted. -/
inductive Problem where
  /-- The text is no JSON document, or breaks a limit. -/
  | malformed
  | wrongType (found : Tree) (expected : String)
  | outOfRange (n : Int) (expected : String)
  /-- An array ends before the wanted field with the given index. -/
  | tooShort (index : Nat) (expected : String)
  /-- An array goes on behind the last field. -/
  | tooLong (length : Nat)
  | missingField (name : String)
  | duplicateField (name : String)

/-- What kind of value a tree is, with the value when it is a simple one. -/
def Tree.describe : Tree → String
  | .null => "null"
  | .bool b => "boolean `" ++ toString b ++ "`"
  | .number n =>
    match n.integer?, n.double? with
    | some i, _ => "integer `" ++ toString i ++ "`"
    | none, some x => "floating point `" ++ showDouble x ++ "`"
    | none, none => "number"
  | .string s => "string " ++ Text.quote (s.getD "")
  | .array _ => "sequence"
  | .object _ => "map"

def Problem.message : Problem → String
  | malformed => "malformed JSON document"
  | wrongType found expected => "invalid type: " ++ found.describe ++ ", expected " ++ expected
  | outOfRange n expected =>
    "invalid value: integer `" ++ toString n ++ "`, expected " ++ expected
  | tooShort index expected => "invalid length " ++ toString index ++ ", expected " ++ expected
  | tooLong _ => "trailing characters"
  | missingField name => "missing field `" ++ name ++ "`"
  | duplicateField name => "duplicate field `" ++ name ++ "`"

/-- Reads a value of type `α` from a tree. -/
abbrev Reader (α : Type) := Tree → Except Problem α

namespace Reader

def string : Reader String
  | .string (some s) => .ok s
  | .string none => .error .malformed
  | found => .error (.wrongType found "a string")

/-- An integer of a range that messages call `name`. -/
def integer (range : Text.IntegerRange) (name : String) : Reader Int
  | .number n =>
    match n.integer? with
    | some i => if range.contains i then .ok i else .error (.outOfRange i name)
    | none => .error (.wrongType (.number n) name)
  | found => .error (.wrongType found name)

def uint16 : Reader UInt16 := fun t => (integer .uint16 "u16" t).map fun n => .ofNat n.toNat

def int32 : Reader Int32 := fun t => (integer .int32 "i32" t).map .ofInt

/-- A null is an absent value. -/
def optional (read : Reader α) : Reader (Option α)
  | .null => .ok none
  | t => (read t).map some

def list (read : Reader α) : Reader (List α)
  | .array items => items.mapM read
  | found => .error (.wrongType found "a sequence")

end Reader

/-- How a record of type `α` is read: the names of its fields, what the value of a field does to a
draft, and what the finished draft stands for. -/
structure Record (σ α : Type) where
  name : String
  fields : List String
  draft : σ
  set : String → Tree → σ → Except Problem σ
  /-- Completes a draft; the function says what is wrong when a field is missing. -/
  finish : (String → Problem) → σ → Except Problem α

namespace Record

variable {σ α : Type}

/-- Reads members in order. Members with other names are left out, whatever they hold. -/
def setMembers (r : Record σ α) (seen : List String) (draft : σ) :
    List (Option String × Tree) → Except Problem σ
  | [] => .ok draft
  | (none, _) :: _ => .error .malformed
  | (some key, value) :: rest =>
    if r.fields.contains key then
      if seen.contains key then .error (.duplicateField key)
      else
        match r.set key value draft with
        | .ok draft => setMembers r (key :: seen) draft rest
        | .error p => .error p
    else setMembers r seen draft rest

/-- Reads items in the order of the fields, `length` being the length of the whole array. -/
def setItems (r : Record σ α) (length : Nat) (draft : σ) :
    List String → List Tree → Except Problem σ
  | _, [] => .ok draft
  | [], _ :: _ => .error (.tooLong length)
  | field :: fields, value :: values =>
    match r.set field value draft with
    | .ok draft => setItems r length draft fields values
    | .error p => .error p

/-- How messages name an array that holds all fields. -/
def arrayName (r : Record σ α) : String :=
  "struct " ++ r.name ++ " with " ++ toString r.fields.length ++
    if r.fields.length = 1 then " element" else " elements"

/-- An array ends before a field. -/
def shortage (r : Record σ α) (field : String) : Problem :=
  .tooShort (r.fields.idxOf field) r.arrayName

def read (r : Record σ α) : Reader α
  | .object members => do r.finish .missingField (← r.setMembers [] r.draft members)
  | .array items => do r.finish r.shortage (← r.setItems items.length r.draft r.fields items)
  | found => .error (.wrongType found ("struct " ++ r.name))

end Record

/-- The value of a field, when it has been read. -/
def required (missing : String → Problem) (field : String) : Option α → Except Problem α
  | some a => .ok a
  | none => .error (missing field)

/-- Reads a whole document. Skipped values may break the limits, but when a reading fails, a broken
limit anywhere is what is reported. -/
def decode (read : Reader α) (bytes : Bytes) : Except Problem α :=
  match tokens? bytes with
  | none => .error .malformed
  | some ts =>
    match Tree.ofTokens? ts with
    | none => .error .malformed
    | some tree =>
      match read tree with
      | .ok a => .ok a
      | .error p => .error (if keepsLimits 0 ts then p else .malformed)

end VehicleRecords.Json
