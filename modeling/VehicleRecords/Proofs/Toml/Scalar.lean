import VehicleRecords.Proofs.Text.Decimal
import VehicleRecords.Proofs.Text.Split
import VehicleRecords.Toml.Scalar

namespace VehicleRecords.Toml

section

variable {s : List Char} (hs : ∀ c ∈ s, c.isDigit = true)

include hs

theorem not_mem_digits {c : Char} (hc : c.isDigit = false) : c ∉ s := by
  intro hmem
  rw [hs c hmem] at hc
  cases hc

theorem dropDate?_digits : dropDate? s = none := by
  unfold dropDate?
  split
  · exact absurd (by simp) (not_mem_digits hs (c := '-') rfl)
  · rfl

theorem dropTime?_digits : dropTime? s = none := by
  unfold dropTime?
  split
  · exact absurd (by simp) (not_mem_digits hs (c := ':') rfl)
  · rfl

theorem isDatetime_digits : isDatetime s = false := by
  rw [isDatetime, dropDate?_digits hs, dropTime?_digits hs]
  rfl

theorem dropSign_digits : dropSign s = (false, s) := by
  unfold dropSign
  split
  · exact absurd List.mem_cons_self (not_mem_digits hs rfl)
  · exact absurd List.mem_cons_self (not_mem_digits hs rfl)
  · rfl

/-- Without a point and an exponent a word is no fraction. -/
theorem isFraction_digits : isFraction s = false := by
  have hplain : (s.map fun c => if c = 'E' then 'e' else c) = s := by
    have hkept : ∀ c ∈ s, (if c = 'E' then 'e' else c) = id c := by
      intro c hc
      exact if_neg fun h => not_mem_digits hs rfl (h ▸ hc)
    rw [List.map_congr_left hkept, List.map_id]
  have hmantissa : Text.cutOnce 'e' s = (s, none) :=
    Text.cutOnce_of_not_mem 'e' s (not_mem_digits hs rfl)
  have hwhole : Text.cutOnce '.' s = (s, none) :=
    Text.cutOnce_of_not_mem '.' s (not_mem_digits hs rfl)
  have hany : (s.any fun c => c = 'e' || c = 'E') = false := by
    rw [List.any_eq_false]
    intro c hc h
    simp only [Bool.or_eq_true, decide_eq_true_eq] at h
    rcases h with rfl | rfl
    · exact not_mem_digits hs rfl hc
    · exact not_mem_digits hs rfl hc
  simp only [isFraction, dropSign_digits hs, hplain, hmantissa, hwhole, hany, Option.isSome_none,
    Bool.or_self, Bool.false_and]
  split
  · rfl
  · rfl

theorem plainDigits?_digits (hne : s ≠ []) : plainDigits? Char.isDigit s = some s := by
  have hcut := Text.cut_of_not_mem '_' s (not_mem_digits hs rfl)
  have hall : ([s].all fun g => !g.isEmpty && g.all Char.isDigit) = true := by
    rw [List.all_cons, List.all_nil, Bool.and_true, Bool.and_eq_true]
    exact ⟨by simpa using hne, List.all_eq_true.2 hs⟩
  simp only [plainDigits?, hcut, hall, if_true, List.flatten_singleton]

end

/-- The digits of a number have no leading zero, and so are an integer. -/
theorem wordInteger?_toDigits {n : Nat} (h : n ≤ 9223372036854775807) :
    wordInteger? (Nat.toDigits 10 n) = some (n : Int) := by
  have hdigits := Text.isDigit_of_mem_toDigits n
  have hdecimal : decimalInteger? (Nat.toDigits 10 n) = some (n : Int) := by
    have hzero : ∀ c s, Nat.toDigits 10 n ≠ '0' :: c :: s := by
      intro c s heq
      rcases Nat.eq_zero_or_pos n with rfl | hn
      · cases heq
      · obtain ⟨d, t, ht, hd⟩ := Text.head_toDigits hn
        rw [ht, List.cons.injEq] at heq
        exact hd (by rw [heq.1, Nat.sub_self])
    have hplain : decimalDigits? (Nat.toDigits 10 n) = some (Nat.toDigits 10 n) := by
      rw [decimalDigits?, plainDigits?_digits hdigits Nat.toDigits_ne_nil]
      split
      · next heq =>
        exact absurd (Option.some.inj heq) (hzero _ _)
      · rfl
    simp only [decimalInteger?, dropSign_digits hdigits, hplain, Option.bind_some,
      Text.natural?_toDigits, Option.map_some]
    rfl
  have hfits : Text.IntegerRange.int64.contains n = true := by
    rw [Text.IntegerRange.contains_iff]
    constructor
    · exact Int.le_trans (by decide) (Int.natCast_nonneg n)
    · exact Int.ofNat_le.2 h
  unfold wordInteger?
  split
  · next heq => exact absurd (heq ▸ by simp) (not_mem_digits hdigits (c := 'x') rfl)
  · next heq => exact absurd (heq ▸ by simp) (not_mem_digits hdigits (c := 'o') rfl)
  · next heq => exact absurd (heq ▸ by simp) (not_mem_digits hdigits (c := 'b') rfl)
  · rw [hdecimal, Option.filter_some, if_pos hfits]

/-- The digits of a number are neither a date nor a fraction, and are read as the number. -/
theorem ofWord?_toDigits {n : Nat} (h : n ≤ 9223372036854775807) :
    Scalar.ofWord? (Nat.toDigits 10 n) = some (.integer n) := by
  have hdigits := Text.isDigit_of_mem_toDigits n
  have hword {word : String} {c : Char} (hmem : c ∈ word.toList) (hc : c.isDigit = false) :
      String.ofList (Nat.toDigits 10 n) ≠ word := by
    rintro rfl
    rw [String.toList_ofList] at hmem
    exact not_mem_digits hdigits hc hmem
  have hspecial : isSpecial (Nat.toDigits 10 n) = false := by
    rw [isSpecial, dropSign_digits hdigits, Bool.or_eq_false_iff, beq_eq_false_iff_ne,
      beq_eq_false_iff_ne]
    exact ⟨hword (c := 'i') (by decide) rfl, hword (c := 'a') (by decide) rfl⟩
  unfold Scalar.ofWord?
  split
  · next heq => exact absurd heq (hword (c := 't') (by decide) rfl)
  · next heq => exact absurd heq (hword (c := 'f') (by decide) rfl)
  · rw [isDatetime_digits hdigits, isFraction_digits hdigits, hspecial,
      wordInteger?_toDigits h]
    rfl

end VehicleRecords.Toml
