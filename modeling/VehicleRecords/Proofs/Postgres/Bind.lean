import Mathlib.Tactic.Ring
import VehicleRecords.Car
import VehicleRecords.Postgres.Bind
import VehicleRecords.Proofs.Text.Utf8

namespace VehicleRecords.Postgres

theorem bigEndian_succ (size : Nat) (n : Int) :
    bigEndian (size + 1) n =
      UInt8.ofNat ((n / Int.pow 256 size) % 256).toNat :: bigEndian size n := by
  rw [bigEndian, List.range_succ, List.reverse_append, List.reverse_singleton,
    List.singleton_append, List.map_cons, bigEndian]

theorem length_bigEndian (size : Nat) (n : Int) : (bigEndian size n).length = size := by
  rw [bigEndian, List.length_map, List.length_reverse, List.length_range]

theorem pow_256_pos (size : Nat) : 0 < Int.pow 256 size := Int.pow_pos (by decide)

theorem pow_256_succ (size : Nat) : Int.pow 256 (size + 1) = Int.pow 256 size * 256 :=
  Int.pow_succ 256 size

/-- A remainder is its highest byte and the remainder below it. -/
theorem emod_pow_256_succ (size : Nat) (n : Int) :
    n % Int.pow 256 (size + 1) =
      n / Int.pow 256 size % 256 * Int.pow 256 size + n % Int.pow 256 size := by
  have hquotient : n / Int.pow 256 (size + 1) = n / Int.pow 256 size / 256 := by
    rw [pow_256_succ, Int.ediv_ediv_of_nonneg (pow_256_pos size).le]
  calc n % Int.pow 256 (size + 1)
    _ = n - Int.pow 256 size * 256 * (n / Int.pow 256 size / 256) := by
      rw [Int.emod_def, hquotient, pow_256_succ]
    _ = (n / Int.pow 256 size - 256 * (n / Int.pow 256 size / 256)) * Int.pow 256 size +
        (n - Int.pow 256 size * (n / Int.pow 256 size)) := by ring
    _ = _ := by rw [← Int.emod_def, ← Int.emod_def]

/-- Bytes read behind `before` add the remainder of the integer they were made of. -/
theorem foldl_bigEndian (size : Nat) (n before : Int) :
    (bigEndian size n).foldl (fun n b => n * 256 + (b.toNat : Int)) before =
      before * Int.pow 256 size + n % Int.pow 256 size := by
  induction size generalizing before with
  | zero =>
    have hone : Int.pow 256 0 = 1 := rfl
    rw [hone, Int.mul_one, Int.emod_one, Int.add_zero]
    rfl
  | succ size ih =>
    have hbyte : ((UInt8.ofNat ((n / Int.pow 256 size) % 256).toNat).toNat : Int) =
        n / Int.pow 256 size % 256 := by
      rw [Text.Utf8.toNat_ofNat (by omega)]
      omega
    rw [bigEndian_succ, List.foldl_cons, hbyte]
    calc _ = (before * 256 + n / Int.pow 256 size % 256) * Int.pow 256 size +
          n % Int.pow 256 size := ih _
      _ = before * (Int.pow 256 size * 256) +
          (n / Int.pow 256 size % 256 * Int.pow 256 size + n % Int.pow 256 size) := by ring
      _ = _ := by rw [← pow_256_succ, ← emod_pow_256_succ]

/-- An integer is found again in as many bytes as hold it with its sign. -/
theorem ofBigEndian_bigEndian {size : Nat} {n : Int} (hleast : -(Int.pow 256 size / 2) ≤ n)
    (hgreatest : n < Int.pow 256 size / 2) : ofBigEndian (bigEndian size n) = n := by
  have hpos := pow_256_pos size
  have hfold := foldl_bigEndian size n 0
  rw [Int.zero_mul, Int.zero_add] at hfold
  rw [ofBigEndian, length_bigEndian, Int.natCast_zero, hfold]
  by_cases hsign : 0 ≤ n
  · rw [Int.emod_eq_of_lt hsign (by omega), if_pos hgreatest]
  · -- A negative integer is stored as its complement, which is in the upper half.
    have hcomplement : n % Int.pow 256 size = n + Int.pow 256 size := by
      rw [← Int.add_emod_right, Int.emod_eq_of_lt (by omega) (by omega)]
    rw [hcomplement, if_neg (by omega), Int.add_sub_cancel]

/-- The column of the year holds every year. -/
theorem contains_year (year : UInt16) : Text.IntegerRange.int32.contains year.toNat = true := by
  have hyear := year.toNat_lt
  simp only [Text.IntegerRange.contains_iff, Text.IntegerRange.int32]
  omega

theorem encode_year (year : UInt16) :
    encode .int4 (.ofUInt16 year) = .ok (some (bigEndian 4 year.toNat)) := by
  have hint : (Int64.ofNat year.toNat).toInt = year.toNat :=
    Int64.toInt_ofNat_of_lt (year.toNat_lt.trans (by decide))
  have hvalue : integerOf? .int32 (.int (Int64.ofNat year.toNat)) = some (year.toNat : Int) := by
    rw [integerOf?, hint, if_pos (contains_year year)]
  simp only [Value.ofUInt16, encode, SqlType.integer?, hvalue]

theorem encode_text (s : String) : encode .text (.text s) = .ok (some (bytesOf s)) := rfl

end VehicleRecords.Postgres
