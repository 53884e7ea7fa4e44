import Mathlib.Algebra.Ring.Int.Defs
import VehicleRecords.Proofs.Text.Decimal
import VehicleRecords.Proofs.Text.Trim

/-!
Integers that are written as texts, between white space, and their ranges in bytes. A range with
negative numbers reads from a trimmed text just what is written there and fits (`read_trim_iff`).
-/
namespace VehicleRecords.Text

/-- The integers with a sign bit that bytes hold. -/
def Fits (size : Nat) (n : Int) : Prop := -2 ^ (8 * size - 1) ≤ n ∧ n < 2 ^ (8 * size - 1)

instance (size : Nat) (n : Int) : Decidable (Fits size n) := inferInstanceAs (Decidable (_ ∧ _))

/-- Between white space the text writes an integer, of whatever size. -/
def Writes (s : String) (n : Int) : Prop := ∃ t, Trimmed s.toList t ∧ integer? t = some n

/-- Between white space the text writes an integer that bytes hold. -/
def WritesIn (size : Nat) (s : String) (n : Int) : Prop := Writes s n ∧ Fits size n

def integerIn? (size : Nat) (s : String) : Option Int :=
  (integer? (trim s.toList)).filter fun n => Fits size n

theorem writes_iff {s : String} {n : Int} : Writes s n ↔ integer? (trim s.toList) = some n := by
  constructor
  · rintro ⟨t, htrim, hn⟩
    rwa [trim_of_trimmed htrim]
  · exact fun hn => ⟨_, trimmed_trim s.toList, hn⟩

theorem Writes.unique {s : String} {n k : Int} (hn : Writes s n) (hk : Writes s k) : n = k :=
  Option.some.inj ((writes_iff.1 hn).symm.trans (writes_iff.1 hk))

theorem integerIn?_eq_some_iff {size : Nat} {s : String} {n : Int} :
    integerIn? size s = some n ↔ WritesIn size s n := by
  rw [integerIn?, Option.filter_eq_some_iff, decide_eq_true_eq, WritesIn, writes_iff]

/-- A range reads from a trimmed text just what is written there, if that lies in the range. -/
theorem read_trim_iff {range : IntegerRange} (hrange : range.least < 0 ∧ 0 ≤ range.greatest)
    {s : String} {n : Int} :
    range.read (trim s.toList) = .ok n ↔ Writes s n ∧ range.contains n = true := by
  rw [IntegerRange.read_eq_ok_iff range hrange, writes_iff, IntegerRange.contains_iff]

theorem contains_int64_iff {n : Int} : IntegerRange.int64.contains n = true ↔ Fits 8 n := by
  simp only [IntegerRange.contains_iff, IntegerRange.int64, Fits]
  omega

theorem read_int64_trim_iff {s : String} {n : Int} :
    IntegerRange.int64.read (trim s.toList) = .ok n ↔ WritesIn 8 s n := by
  rw [read_trim_iff (by decide), contains_int64_iff, WritesIn]

end VehicleRecords.Text
