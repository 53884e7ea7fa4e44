import VehicleRecords.Decimal.Shortest
import VehicleRecords.Text.Integer

/-!
Numbers of a JSON text. A number without fraction and exponent that fits 64 bits is an integer; every
other one stands for a double.
-/
namespace VehicleRecords.Json

/-- A number as it is written: sign, digits before and after the point, exponent. -/
structure Number where
  negative : Bool := false
  whole : Nat
  fraction : List Nat := []
  exponent : Option Int := none
  deriving DecidableEq, Repr

/-- The decimal digits at the start of a text. -/
def digitsOf (s : List Char) : List Nat × List Char :=
  let (digits, rest) := s.span Char.isDigit
  (digits.map fun c => c.toNat - '0'.toNat, rest)

def ofDigits (digits : List Nat) : Nat := digits.foldl (10 * · + ·) 0

namespace Number

/-- A fraction at the start of a text, when a point stands there. -/
def readFraction? : List Char → Option (List Nat × List Char)
  | '.' :: s =>
    match digitsOf s with
    | ([], _) => none
    | (digits, rest) => some (digits, rest)
  | s => some ([], s)

/-- The digits of an exponent, to the end of the text. -/
def readPower? (sign : Int) (s : List Char) : Option Int :=
  match digitsOf s with
  | (d :: ds, []) => some (sign * ofDigits (d :: ds))
  | _ => none

/-- The exponent that makes up the rest of a text; an empty rest is none. -/
def readExponent? : List Char → Option (Option Int)
  | [] => some none
  | c :: s =>
    if c = 'e' ∨ c = 'E' then
      match s with
      | '-' :: s => (readPower? (-1) s).map some
      | '+' :: s => (readPower? 1 s).map some
      | s => (readPower? 1 s).map some
    else none

def readUnsigned? (negative : Bool) (s : List Char) : Option Number :=
  match digitsOf s with
  | ([], _) | (0 :: _ :: _, _) => none
  | (digits, s) => do
    let (fraction, s) ← readFraction? s
    let exponent ← readExponent? s
    return ⟨negative, ofDigits digits, fraction, exponent⟩

/-- The number that a text is. -/
def ofText? : List Char → Option Number
  | '-' :: s => readUnsigned? true s
  | s => readUnsigned? false s

def ofInt (n : Int) : Number := { negative := n < 0, whole := n.natAbs }

/-- The integer of a number that is one. Minus zero is none. -/
def integer? (n : Number) : Option Int :=
  let value : Int := if n.negative then -n.whole else n.whole
  if n.fraction.isEmpty && n.exponent.isNone && !(n.negative && n.whole == 0) &&
      Text.IntegerRange.int64.least ≤ value && value ≤ Text.IntegerRange.uint64.greatest then
    some value
  else none

/-- Shortens a number from the right until it fits 64 bits; also counts the digits lost. -/
def fit64 (n : Nat) : Nat × Nat :=
  if n < UInt64.size then (n, 0)
  else
    let (kept, lost) := fit64 (n / 10)
    (kept, lost + 1)
termination_by n
decreasing_by
  simp only [UInt64.size] at *
  omega

/-- Appends digits as long as the number fits 64 bits; also counts the digits taken. -/
def append64 (n : Nat) : List Nat → Nat × Nat
  | [] => (n, 0)
  | d :: rest =>
    if 10 * n + d < UInt64.size then
      let (kept, taken) := append64 (10 * n + d) rest
      (kept, taken + 1)
    else (n, 0)

/-- The leading digits that fit 64 bits and the power of ten they are multiplied by. -/
def significand (n : Number) : Nat × Int :=
  let (whole, lost) := fit64 n.whole
  let (kept, taken) := append64 whole n.fraction
  (kept, n.exponent.getD 0 + lost - taken)

def powerOfTen (n : Nat) : Float := Float.ofScientific 1 false n

/-- `x · 10 ^ e`, unless that is too large for a double. -/
def scale? (x : Float) (e : Int) : Option Float :=
  if x == 0 then some x
  else if 308 < e then none
  else if 0 ≤ e then
    let y := x * powerOfTen e.toNat
    if y.isInf then none else some y
  else if -308 ≤ e then some (x / powerOfTen (-e).toNat)
  else if -616 ≤ e then some (x / powerOfTen 308 / powerOfTen (-e - 308).toNat)
  else some 0

/-- The double a number stands for, unless it is too large. -/
def double? (n : Number) : Option Float :=
  let (digits, e) := n.significand
  (scale? (UInt64.ofNat digits).toFloat e).map fun x => if n.negative then -x else x

/-- An integer, or a number that a double can hold. -/
def isFinite (n : Number) : Bool := n.integer?.isSome || n.double?.isSome

end Number

def zeros (n : Int) : List Char := List.replicate n.toNat '0'

/-- Digits with a decimal point in their midst, or an exponent where the point lies more than 16
digits behind the first digit or more than 5 before it. -/
def placePoint (d : Decimal.Scaled) : List Char :=
  let digits := Nat.toDigits 10 d.digits
  let point := digits.length + d.exponent
  if 0 ≤ d.exponent ∧ point ≤ 16 then digits ++ zeros d.exponent ++ ['.', '0']
  else if 0 < point ∧ point ≤ 16 then
    digits.take point.toNat ++ '.' :: digits.drop point.toNat
  else if -5 < point ∧ point ≤ 0 then '0' :: '.' :: zeros (-point) ++ digits
  else
    let mantissa := match digits with
      | first :: second :: rest => first :: '.' :: second :: rest
      | digits => digits
    mantissa ++ 'e' :: (toString (point - 1)).toList

/-- The text of a finite double: the fewest digits that read back. -/
def showDouble (x : Float) : String :=
  let negative := x.toBits.toNat / 0x8000000000000000 = 1
  let size := Float.ofBits (UInt64.ofNat (x.toBits.toNat % 0x8000000000000000))
  let digits := if size == 0 then ['0', '.', '0'] else placePoint (Decimal.shortest size)
  String.ofList (if negative then '-' :: digits else digits)

end VehicleRecords.Json
