/-!
Digits and natural numbers in bases up to sixteen.
-/
namespace VehicleRecords.Text

/-- The value of a digit in either case. -/
def digitValue? (base : Nat) (c : Char) : Option Nat :=
  let n :=
    if c.isDigit then c.toNat - '0'.toNat
    else if 'a' ≤ c.toLower && c.toLower ≤ 'f' then c.toLower.toNat - 'a'.toNat + 10
    else base
  if n < base then some n else none

/-- The number that one or more digits write. -/
def natural? (base : Nat) : List Char → Option Nat
  | [] => none
  | s => s.foldlM (fun n c => (digitValue? base c).map (base * n + ·)) 0

end VehicleRecords.Text
