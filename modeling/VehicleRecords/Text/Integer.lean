/-!
Decimal integers read from text into a bounded range. Reading goes left to right, so of a bad digit
and a value that leaves the range the earlier one is reported.
-/
namespace VehicleRecords.Text

/-- Why a text is no integer of the wanted range. -/
inductive IntegerError where
  | empty
  | invalidDigit
  | tooLarge
  | tooSmall
  deriving DecidableEq, Repr

def IntegerError.message : IntegerError → String
  | .empty => "cannot parse integer from empty string"
  | .invalidDigit => "invalid digit found in string"
  | .tooLarge => "number too large to fit in target type"
  | .tooSmall => "number too small to fit in target type"

/-- A magnitude on the side of zero that the sign tells. -/
def signed (negative : Bool) (n : Nat) : Int := if negative then -(n : Int) else n

/-- The integers from `least` to `greatest`. A range without negative numbers allows no minus sign. -/
structure IntegerRange where
  least : Int
  greatest : Int

namespace IntegerRange

def int16 : IntegerRange := ⟨-32768, 32767⟩
def int32 : IntegerRange := ⟨-2147483648, 2147483647⟩
def int64 : IntegerRange := ⟨-9223372036854775808, 9223372036854775807⟩
def uint16 : IntegerRange := ⟨0, 65535⟩
def uint64 : IntegerRange := ⟨0, 18446744073709551615⟩

def contains (r : IntegerRange) (n : Int) : Bool := r.least ≤ n && n ≤ r.greatest

theorem contains_iff {r : IntegerRange} {n : Int} :
    r.contains n = true ↔ r.least ≤ n ∧ n ≤ r.greatest := by
  rw [contains, Bool.and_eq_true, decide_eq_true_eq, decide_eq_true_eq]

theorem contains_int32 (n : Int32) : int32.contains n.toInt = true :=
  contains_iff.2 ⟨n.le_toInt, Int.le_of_lt_add_one n.toInt_lt⟩

theorem contains_uint16 (n : UInt16) : uint16.contains n.toNat = true :=
  contains_iff.2 ⟨Int.natCast_nonneg _, Int.ofNat_le.2 (Nat.le_of_lt_succ n.toNat_lt)⟩

/-- Reads digits onto `value`, away from zero on the side of the sign. -/
def readDigits (r : IntegerRange) (negative : Bool) (value : Int) :
    List Char → Except IntegerError Int
  | [] => .ok value
  | c :: rest =>
    if c.isDigit then
      let digit : Int := (c.toNat - '0'.toNat : Nat)
      let next := if negative then value * 10 - digit else value * 10 + digit
      if r.greatest < next then .error .tooLarge
      else if next < r.least then .error .tooSmall
      else readDigits r negative next rest
    else .error .invalidDigit

/-- One optional sign and at least one ASCII digit, with a value in the range. -/
def read (r : IntegerRange) : List Char → Except IntegerError Int
  | [] => .error .empty
  | ['+'] | ['-'] => .error .invalidDigit
  | '+' :: rest => r.readDigits false 0 rest
  | '-' :: rest =>
    if r.least < 0 then r.readDigits true 0 rest else .error .invalidDigit
  | s => r.readDigits false 0 s

end IntegerRange

end VehicleRecords.Text
