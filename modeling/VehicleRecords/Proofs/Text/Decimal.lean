import VehicleRecords.Text.Digit
import VehicleRecords.Text.Integer
import VehicleRecords.Text.Quoted

/-!
The integer a decimal text denotes, whatever its size. A range reads exactly the texts whose integer
lies in it (`read_eq_ok_iff`).
-/
namespace VehicleRecords.Text

def magnitude? (s : List Char) : Option Nat :=
  if s ≠ [] ∧ s.all Char.isDigit = true then some (Nat.ofDigitChars 10 s 0) else none

/-- An optional sign before the digits. -/
def integer? : List Char → Option Int
  | '+' :: s => (magnitude? s).map (signed false)
  | '-' :: s => (magnitude? s).map (signed true)
  | s => (magnitude? s).map (signed false)

theorem isDigit_of_mem_toDigits (n : Nat) : ∀ c ∈ Nat.toDigits 10 n, c.isDigit = true :=
  fun _ hc => Nat.isDigit_of_mem_toDigits (by decide) (by decide) hc

theorem first_toDigits (n : Nat) : ∃ c s, Nat.toDigits 10 n = c :: s ∧ c.isDigit = true := by
  have hdigits := isDigit_of_mem_toDigits n
  cases hs : Nat.toDigits 10 n with
  | nil => exact absurd hs Nat.toDigits_ne_nil
  | cons c s =>
    rw [hs] at hdigits
    exact ⟨c, s, rfl, hdigits c List.mem_cons_self⟩

/-- A number other than zero does not begin with a zero. -/
theorem head_toDigits {n : Nat} (h : 0 < n) :
    ∃ c s, Nat.toDigits 10 n = c :: s ∧ c.toNat - '0'.toNat ≠ 0 := by
  have hdigit : ∀ d < 10, 0 < d → d.digitChar.toNat - '0'.toNat ≠ 0 := by decide
  induction n using Nat.strongRecOn with
  | ind n ih =>
    by_cases hn : n < 10
    · exact ⟨n.digitChar, [], Nat.toDigits_of_lt_base hn, hdigit n hn h⟩
    · obtain ⟨c, s, hs, hc⟩ := ih (n / 10) (by omega) (by omega)
      rw [Nat.toDigits_of_base_le (by decide) (by omega), hs]
      exact ⟨c, _, rfl, hc⟩

/-- A digit is no sign. -/
theorem ne_sign_of_isDigit {c : Char} (h : c.isDigit = true) : c ≠ '-' ∧ c ≠ '+' := by
  constructor
  · rintro rfl
    cases h
  · rintro rfl
    cases h

theorem toList_ofNat (n : Nat) : (toString (Int.ofNat n)).toList = Nat.toDigits 10 n :=
  Nat.toList_repr

theorem toList_negSucc (n : Nat) :
    (toString (Int.negSucc n)).toList = '-' :: Nat.toDigits 10 (n + 1) := by
  have hrepr : toString (Int.negSucc n) = "-" ++ toString (n + 1) := rfl
  rw [hrepr, String.toList_append]
  exact congrArg ('-' :: ·) Nat.toList_repr

/-- The text of an integer has digits and perhaps a minus sign. -/
theorem mem_toString {n : Int} {c : Char} (h : c ∈ (toString n).toList) :
    c.isDigit = true ∨ c = '-' := by
  cases n with
  | ofNat k =>
    rw [toList_ofNat] at h
    exact .inl (isDigit_of_mem_toDigits k c h)
  | negSucc k =>
    rw [toList_negSucc, List.mem_cons] at h
    exact h.symm.imp (isDigit_of_mem_toDigits (k + 1) c) id

theorem magnitude?_toDigits (n : Nat) : magnitude? (Nat.toDigits 10 n) = some n := by
  rw [magnitude?, if_pos ⟨Nat.toDigits_ne_nil, List.all_eq_true.2 (isDigit_of_mem_toDigits n)⟩,
    Nat.ofDigitChars_ten_toDigits]

theorem digitValue?_of_isDigit {c : Char} (h : c.isDigit = true) :
    digitValue? 10 c = some (c.toNat - '0'.toNat) := by
  have hhigh : c.toNat ≤ '0'.toNat + 9 := (Char.isDigit_iff_toNat.1 h).2
  rw [digitValue?, if_pos h]
  exact if_pos (by omega)

theorem digitValue?_hexDigit : ∀ n < 16, digitValue? 16 (hexDigit n) = some n := by decide

/-- Reading digits goes on from the number that the digits in front of them write. -/
theorem foldlM_digitValue? {s : List Char} (h : ∀ c ∈ s, c.isDigit = true) (v : Nat) :
    s.foldlM (fun n c => (digitValue? 10 c).map (10 * n + ·)) v = some (Nat.ofDigitChars 10 s v) := by
  induction s generalizing v with
  | nil => rfl
  | cons c s ih =>
    rw [List.forall_mem_cons] at h
    rw [List.foldlM_cons, digitValue?_of_isDigit h.1, Nat.ofDigitChars_cons]
    exact ih h.2 _

theorem natural?_toDigits (n : Nat) : natural? 10 (Nat.toDigits 10 n) = some n := by
  rw [natural?, foldlM_digitValue? (isDigit_of_mem_toDigits n), Nat.ofDigitChars_ten_toDigits]
  exact Nat.toDigits_ne_nil

/-- The text of an integer denotes it. -/
theorem integer?_toString (n : Int) : integer? (toString n).toList = some n := by
  cases n with
  | negSucc k =>
    have hminus (s : List Char) : integer? ('-' :: s) = (magnitude? s).map (signed true) := rfl
    rw [toList_negSucc, hminus, magnitude?_toDigits]
    rfl
  | ofNat k =>
    obtain ⟨c, s, hs, hc⟩ := first_toDigits k
    have hsign := ne_sign_of_isDigit hc
    have hplain : integer? (c :: s) = (magnitude? (c :: s)).map (signed false) := by
      rw [integer?] <;> simp_all
    rw [toList_ofNat, hs, hplain, ← hs, magnitude?_toDigits]
    rfl

theorem le_ofDigitChars (s : List Char) (v : Nat) : v ≤ Nat.ofDigitChars 10 s v := by
  induction s generalizing v with
  | nil => simp
  | cons c s ih =>
    rw [Nat.ofDigitChars_cons]
    have := ih (10 * v + (c.toNat - '0'.toNat))
    omega

namespace IntegerRange

/-- Digits read onto a value of the range are read in full exactly when the result is in the
range: each digit leads farther from zero. -/
theorem readDigits_eq_ok_iff (r : IntegerRange) (hr : r.least ≤ 0 ∧ 0 ≤ r.greatest)
    (negative : Bool) (v : Nat) (s : List Char) (n : Int)
    (hv : r.least ≤ signed negative v ∧ signed negative v ≤ r.greatest) :
    r.readDigits negative (signed negative v) s = .ok n ↔
      s.all Char.isDigit = true ∧ n = signed negative (Nat.ofDigitChars 10 s v) ∧
      r.least ≤ n ∧ n ≤ r.greatest := by
  induction s generalizing v with
  | nil =>
    simp only [readDigits, Except.ok.injEq, List.all_nil, Nat.ofDigitChars_nil, true_and]
    constructor
    · rintro rfl
      exact ⟨rfl, hv⟩
    · rintro ⟨rfl, _⟩
      rfl
  | cons c s ih =>
    cases hc : c.isDigit with
    | false => simp [readDigits, hc]
    | true =>
      have hnext (d : Nat) : (if negative then signed negative v * 10 - (d : Int)
          else signed negative v * 10 + d) = signed negative (10 * v + d) := by
        cases negative <;> simp only [signed, Bool.false_eq_true, if_false, if_true] <;> omega
      have hgrow := le_ofDigitChars s (10 * v + (c.toNat - '0'.toNat))
      simp only [readDigits, hc, if_true, hnext, List.all_cons, Bool.true_and,
        Nat.ofDigitChars_cons]
      split
      · next hbig =>
        constructor
        · intro h
          cases h
        · rintro ⟨_, hn, _, hle⟩
          cases negative <;> simp only [signed, Bool.false_eq_true, if_false, if_true] at * <;>
            omega
      · split
        · next hsmall =>
          constructor
          · intro h
            cases h
          · rintro ⟨_, hn, hle, _⟩
            cases negative <;> simp only [signed, Bool.false_eq_true, if_false, if_true] at * <;>
              omega
        · exact ih _ ⟨by omega, by omega⟩

/-- Digits that leave the range never come back to it, so the reader may stop at the first that does. -/
theorem read_digits_iff (r : IntegerRange) (hr : r.least ≤ 0 ∧ 0 ≤ r.greatest) (negative : Bool)
    (s : List Char) (hs : s ≠ []) (n : Int) :
    r.readDigits negative 0 s = .ok n ↔
      (magnitude? s).map (signed negative) = some n ∧ r.least ≤ n ∧ n ≤ r.greatest := by
  have hzero : signed negative 0 = 0 := by cases negative <;> rfl
  have h := readDigits_eq_ok_iff r hr negative 0 s n (by rwa [hzero])
  rw [hzero] at h
  rw [h, magnitude?]
  by_cases hd : s.all Char.isDigit = true
  · rw [if_pos ⟨hs, hd⟩]
    simp only [hd, true_and, Option.map_some, Option.some.injEq, eq_comm]
  · rw [if_neg fun hn => hd hn.2]
    simp [hd]

theorem read_unsigned (r : IntegerRange) {c : Char} (s : List Char) (hplus : c ≠ '+')
    (hminus : c ≠ '-') : r.read (c :: s) = r.readDigits false 0 (c :: s) := by
  rw [read] <;> simp_all

/-- A range with negative numbers reads a text as the integer it denotes, if that is in the range. -/
theorem read_eq_ok_iff (r : IntegerRange) (hr : r.least < 0 ∧ 0 ≤ r.greatest) (s : List Char)
    (n : Int) : r.read s = .ok n ↔ integer? s = some n ∧ r.least ≤ n ∧ n ≤ r.greatest := by
  have hr' : r.least ≤ 0 ∧ 0 ≤ r.greatest := ⟨by omega, hr.2⟩
  have hnone : magnitude? [] = none := rfl
  cases s with
  | nil => simp [read, integer?, hnone]
  | cons c s =>
    by_cases hplus : c = '+'
    · subst hplus
      cases s with
      | nil => simp [read, integer?, hnone]
      | cons d s =>
        have hread : r.read ('+' :: d :: s) = r.readDigits false 0 (d :: s) := by simp [read]
        rw [hread]
        exact read_digits_iff r hr' false (d :: s) (List.cons_ne_nil d s) n
    · by_cases hminus : c = '-'
      · subst hminus
        cases s with
        | nil => simp [read, integer?, hnone]
        | cons d s =>
          have hread : r.read ('-' :: d :: s) = r.readDigits true 0 (d :: s) := by
            simp [read, hr.1]
          rw [hread]
          exact read_digits_iff r hr' true (d :: s) (List.cons_ne_nil d s) n
      · have hint : integer? (c :: s) = (magnitude? (c :: s)).map (signed false) := by
          rw [integer?] <;> simp_all
        rw [read_unsigned r s hplus hminus, hint]
        exact read_digits_iff r hr' false (c :: s) (List.cons_ne_nil c s) n

/-- The decimal text of a number is read as that number by a range that contains it. -/
theorem read_toString (r : IntegerRange) (hr : r.least ≤ 0 ∧ 0 ≤ r.greatest) (n : Nat)
    (hn : (n : Int) ≤ r.greatest) : r.read (toString n).toList = .ok (n : Int) := by
  have htoList : (toString n).toList = Nat.toDigits 10 n := Nat.toList_repr
  have hread : r.readDigits false 0 (Nat.toDigits 10 n) = .ok (n : Int) := by
    rw [read_digits_iff r hr false _ Nat.toDigits_ne_nil, magnitude?_toDigits]
    exact ⟨rfl, by omega, hn⟩
  obtain ⟨c, s, hs, hc⟩ := first_toDigits n
  obtain ⟨hminus, hplus⟩ := ne_sign_of_isDigit hc
  rw [htoList, hs, read_unsigned r s hplus hminus, ← hs]
  exact hread

/-- The decimal text of an integer is read as that integer by a range of both signs that contains
it. -/
theorem read_toString_int (r : IntegerRange) (hr : r.least < 0 ∧ 0 ≤ r.greatest) {n : Int}
    (hleast : r.least ≤ n) (hgreatest : n ≤ r.greatest) : r.read (toString n).toList = .ok n :=
  (read_eq_ok_iff r hr _ n).2 ⟨integer?_toString n, hleast, hgreatest⟩

end IntegerRange

end VehicleRecords.Text
