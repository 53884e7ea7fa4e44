import VehicleRecords.Text.Digit
import VehicleRecords.Text.Integer
import VehicleRecords.Text.Split

/-!
Values of a TOML text that are written without quotes: truth values, integers, decimal fractions,
dates and times. Of the last two only their being well-formed matters.
-/
namespace VehicleRecords.Toml

inductive Scalar where
  | bool (b : Bool)
  | integer (n : Int)
  | float
  | datetime
  deriving DecidableEq, Repr

/-- Digits without the underscores between them. -/
def plainDigits? (isDigit : Char → Bool) (s : List Char) : Option (List Char) :=
  let groups := Text.cut '_' s
  if groups.all fun g => !g.isEmpty && g.all isDigit then some groups.flatten else none

/-- An integer in a base that is written in front of it. -/
def prefixedInteger? (base : Nat) (s : List Char) : Option Nat :=
  (plainDigits? (fun c => (Text.digitValue? base c).isSome) s).bind (Text.natural? base)

/-- The sign of a number, `true` for minus, and the rest. -/
def dropSign : List Char → Bool × List Char
  | '-' :: s => (true, s)
  | '+' :: s => (false, s)
  | s => (false, s)

/-- Decimal digits without needless zeros in front. -/
def decimalDigits? (s : List Char) : Option (List Char) :=
  match plainDigits? Char.isDigit s with
  | some ('0' :: _ :: _) => none
  | digits => digits

def decimalInteger? (s : List Char) : Option Int :=
  let (negative, s) := dropSign s
  ((decimalDigits? s).bind (Text.natural? 10)).map (Text.signed negative)

/-- An integer of at most 64 bits. -/
def wordInteger? (s : List Char) : Option Int :=
  let value := match s with
    | '0' :: 'x' :: s => (prefixedInteger? 16 s).map Int.ofNat
    | '0' :: 'o' :: s => (prefixedInteger? 8 s).map Int.ofNat
    | '0' :: 'b' :: s => (prefixedInteger? 2 s).map Int.ofNat
    | s => decimalInteger? s
  value.filter Text.IntegerRange.int64.contains

/-- A positive number `digits · 10 ^ exponent` rounds to a double and not to infinity. -/
def fitsDouble (digits : Nat) (exponent : Int) : Bool :=
  if digits = 0 ∨ exponent + (Nat.toDigits 10 digits).length < 300 then true
  else if 400 < exponent then false
  else digits * Nat.pow 10 exponent.toNat <
    (Nat.pow 2 54 - 1) * Nat.pow 2 970 * Nat.pow 10 (-exponent).toNat

/-- A number with a fraction or an exponent. -/
def isFraction (s : List Char) : Bool :=
  let (negative, s) := dropSign s
  let (mantissa, power) := Text.cutOnce 'e' (s.map fun c => if c = 'E' then 'e' else c)
  let (whole, fraction) := Text.cutOnce '.' mantissa
  let power? := match power with
    | none => some (0 : Int)
    | some p =>
      let (negative, p) := dropSign p
      ((plainDigits? Char.isDigit p).bind (Text.natural? 10)).map (Text.signed negative)
  match decimalDigits? whole, plainDigits? Char.isDigit (fraction.getD ['0']), power? with
  | some whole, some fractionDigits, some power =>
    (fraction.isSome || s.any fun c => c = 'e' || c = 'E') &&
      (negative ||
        (Text.natural? 10 (whole ++ fractionDigits)).any
          (fitsDouble · (power - fractionDigits.length)))
  | _, _, _ => false

/-- Infinity, or no number. -/
def isSpecial (s : List Char) : Bool :=
  let word := String.ofList (dropSign s).2
  word == "inf" || word == "nan"

/-- The number that two digits stand for. -/
def twoDigits? (a b : Char) : Option Nat :=
  Text.natural? 10 [a, b]

/-- Two digits stand for a number in a range. -/
def twoDigitsIn (least greatest : Nat) (a b : Char) : Bool :=
  (twoDigits? a b).any fun n => least ≤ n && n ≤ greatest

/-- The number of days of a month. -/
def daysIn (year month : Nat) : Nat :=
  if month = 2 then
    if year % 4 = 0 ∧ (year % 100 ≠ 0 ∨ year % 400 = 0) then 29 else 28
  else if month ∈ [4, 6, 9, 11] then 30
  else 31

/-- What follows a date at the start of a text. -/
def dropDate? : List Char → Option (List Char)
  | y1 :: y2 :: y3 :: y4 :: '-' :: m1 :: m2 :: '-' :: d1 :: d2 :: rest => do
    let century ← twoDigits? y1 y2
    let year ← twoDigits? y3 y4
    let month ← twoDigits? m1 m2
    let day ← twoDigits? d1 d2
    if 1 ≤ month ∧ month ≤ 12 ∧ 1 ≤ day ∧ day ≤ daysIn (century * 100 + year) month then some rest
    else none
  | _ => none

/-- What follows a time of day at the start of a text. A minute may have a leap second. -/
def dropTime? : List Char → Option (List Char)
  | h1 :: h2 :: ':' :: m1 :: m2 :: ':' :: s1 :: s2 :: rest =>
    if twoDigitsIn 0 23 h1 h2 && twoDigitsIn 0 59 m1 m2 && twoDigitsIn 0 60 s1 s2 then
      match rest with
      | '.' :: d :: rest => if d.isDigit then some (rest.dropWhile Char.isDigit) else none
      | ['.'] => none
      | rest => some rest
    else none
  | _ => none

/-- The text is empty or an offset from universal time. -/
def isOffset : List Char → Bool
  | [] | ['Z'] | ['z'] => true
  | [sign, h1, h2, ':', m1, m2] =>
    (sign == '+' || sign == '-') && twoDigitsIn 0 23 h1 h2 && twoDigitsIn 0 59 m1 m2
  | _ => false

/-- A date, a time of day, or both with an optional offset. -/
def isDatetime (s : List Char) : Bool :=
  match dropDate? s with
  | some [] => true
  | some (c :: rest) => (c == 'T' || c == 't' || c == ' ') && (dropTime? rest).any isOffset
  | none => dropTime? s == some []

/-- The value that a word is. -/
def Scalar.ofWord? (s : List Char) : Option Scalar :=
  match String.ofList s with
  | "true" => some (.bool true)
  | "false" => some (.bool false)
  | _ =>
    if isDatetime s then some .datetime
    else if isFraction s || isSpecial s then some .float
    else (wordInteger? s).map .integer

end VehicleRecords.Toml
