/-!
The shortest decimal number that reads back as a given double. A double stands for every real number
nearer to it than to its neighbours; the two ends of that interval belong to it when its mantissa is
even. Of the decimals with the fewest digits inside the interval the nearest one is taken.
-/
namespace VehicleRecords.Decimal

/-- A positive double `quarters · 2 ^ exponent` and the ends of its interval, all counted in
quarters of the last mantissa bit. -/
structure Interval where
  quarters : Nat
  least : Nat
  greatest : Nat
  exponent : Int
  closed : Bool
  deriving DecidableEq, Repr

/-- The interval of a positive double with the given bit fields. -/
def Interval.ofFields (exponentBits mantissaBits : Nat) : Interval :=
  let mantissa := if exponentBits = 0 then mantissaBits else mantissaBits + Nat.pow 2 52
  let exponent : Int := (max exponentBits 1 : Nat) - 1077
  -- Just above a power of two the neighbour below is only half as far away.
  let below := if mantissaBits = 0 ∧ 1 < exponentBits then 1 else 2
  ⟨4 * mantissa, 4 * mantissa - below, 4 * mantissa + 2, exponent, mantissa % 2 = 0⟩

def Interval.ofFloat (x : Float) : Interval :=
  let bits := x.toBits.toNat
  .ofFields (bits / Nat.pow 2 52 % Nat.pow 2 11) (bits % Nat.pow 2 52)

/-- The decimal number `digits · 10 ^ exponent`. -/
structure Scaled where
  digits : Nat
  exponent : Int
  deriving DecidableEq, Repr

namespace Interval

/-- The factors that a count of quarters and a multiple of `10 ^ unit` need to become comparable. -/
def factors (i : Interval) (unit : Int) : Nat × Nat :=
  (Nat.pow 2 i.exponent.toNat * Nat.pow 10 (-unit).toNat,
    Nat.pow 2 (-i.exponent).toNat * Nat.pow 10 unit.toNat)

/-- Whether `n · 10 ^ unit` lies in the interval. -/
def contains (i : Interval) (unit : Int) (n : Nat) : Bool :=
  let (quarter, step) := i.factors unit
  if i.closed then i.least * quarter ≤ n * step && n * step ≤ i.greatest * quarter
  else i.least * quarter < n * step && n * step < i.greatest * quarter

/-- The multiple of `10 ^ unit` in the interval that is nearest to the double. Of two equally near
ones the even multiple is taken. -/
def nearest? (i : Interval) (unit : Int) : Option Nat :=
  let (quarter, step) := i.factors unit
  let below := i.quarters * quarter / step
  let twiceRest := 2 * (i.quarters * quarter % step)
  let upward := step < twiceRest || (twiceRest == step && below % 2 == 1)
  let candidates := if upward then [below + 1, below] else [below, below + 1]
  candidates.find? (i.contains unit)

/-- The least `k` from `start` on, at most `fuel` steps away, with the double below `10 ^ k`. -/
def magnitudeFrom (i : Interval) (start : Int) : Nat → Int
  | 0 => start
  | fuel + 1 =>
    let (quarter, step) := i.factors start
    if i.quarters * quarter < step then start else magnitudeFrom i (start + 1) fuel

/-- The number of digits before the decimal point; leading zeros behind it count as negative. -/
def magnitude (i : Interval) : Int := i.magnitudeFrom (-330) 660

end Interval

/-- Takes trailing zeros off. -/
def Scaled.strip (d : Scaled) : Nat → Scaled
  | 0 => d
  | fuel + 1 =>
    if d.digits ≠ 0 ∧ d.digits % 10 = 0 then Scaled.strip ⟨d.digits / 10, d.exponent + 1⟩ fuel
    else d

/-- The shortest decimal of a positive double. Seventeen digits always suffice. -/
def shortest (x : Float) : Scaled :=
  let i := Interval.ofFloat x
  let found := (List.range 17).findSome? fun n =>
    let unit := i.magnitude - (n + 1 : Nat)
    (i.nearest? unit).map fun digits => Scaled.strip ⟨digits, unit⟩ 20
  found.getD ⟨0, 0⟩

end VehicleRecords.Decimal
