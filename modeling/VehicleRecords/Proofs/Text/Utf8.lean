import Mathlib.Tactic.IntervalCases
import VehicleRecords.Text.Utf8

namespace VehicleRecords.Text.Utf8

theorem start_one {b : UInt8} (h : b.toNat < 0x80) : start b = .char (Char.ofNat b.toNat) := by
  have hb : b < 0x80 := UInt8.lt_iff_toNat_lt.2 h
  rw [start, if_pos hb]

theorem start_two {b : UInt8} (h : 0xC2 ≤ b.toNat ∧ b.toNat ≤ 0xDF) :
    start b = .more { code := b.toNat - 0xC0, due := 1 } := by
  have hlit : (0x80 : UInt8).toNat = 0x80 := rfl
  have hone : ¬ b < 0x80 := by
    rw [UInt8.lt_iff_toNat_lt, hlit]
    omega
  have htwo : (0xC2 ≤ b && b ≤ 0xDF) = true := by simp [UInt8.le_iff_toNat_le, h]
  rw [start, if_neg hone, if_pos htwo]

theorem start_three {b : UInt8} (h : 0xE0 ≤ b.toNat ∧ b.toNat ≤ 0xEF) :
    start b = .more ⟨b.toNat - 0xE0, 2, if b.toNat = 0xE0 then 0xA0 else 0x80,
      if b.toNat = 0xED then 0x9F else 0xBF⟩ := by
  -- Only sixteen bytes begin three, so each is looked at.
  have hb : b = UInt8.ofNat b.toNat := by simp
  generalize b.toNat = n at h hb
  subst hb
  obtain ⟨hlow, hhigh⟩ := h
  interval_cases n <;> rfl

theorem start_four {b : UInt8} (h : 0xF0 ≤ b.toNat ∧ b.toNat ≤ 0xF4) :
    start b = .more ⟨b.toNat - 0xF0, 3, if b.toNat = 0xF0 then 0x90 else 0x80,
      if b.toNat = 0xF4 then 0x8F else 0xBF⟩ := by
  have hb : b = UInt8.ofNat b.toNat := by simp
  generalize b.toNat = n at h hb
  subst hb
  obtain ⟨hlow, hhigh⟩ := h
  interval_cases n <;> rfl

theorem readBehind_char {b : UInt8} {c : Char} (h : start b = .char c) (rest : Bytes) :
    readBehind none (b :: rest) = some c :: readBehind none rest := by
  rw [readBehind]
  simp [h]

theorem readBehind_more {b : UInt8} {p : Partial} (h : start b = .more p) (rest : Bytes) :
    readBehind none (b :: rest) = readBehind (some p) rest := by
  rw [readBehind]
  simp [h]

/-- A byte within the bounds goes on with a character or completes it. -/
theorem readBehind_within {b : UInt8} {p : Partial}
    (h : p.least.toNat ≤ b.toNat ∧ b.toNat ≤ p.greatest.toNat) (rest : Bytes) :
    readBehind (some p) (b :: rest) =
      if p.due ≤ 1 then some (Char.ofNat (p.code * 64 + (b.toNat - 0x80))) :: readBehind none rest
      else readBehind (some { code := p.code * 64 + (b.toNat - 0x80), due := p.due - 1 }) rest := by
  have hfilter : (some p).filter (fun p => p.least ≤ b && b ≤ p.greatest) = some p := by
    simp [Option.filter_some, UInt8.le_iff_toNat_le, h]
  rw [readBehind, hfilter]

theorem readBehind_tail {code due : Nat} {b : UInt8} (h : 0x80 ≤ b.toNat ∧ b.toNat ≤ 0xBF)
    (rest : Bytes) :
    readBehind (some { code, due }) (b :: rest) =
      if due ≤ 1 then some (Char.ofNat (code * 64 + (b.toNat - 0x80))) :: readBehind none rest
      else readBehind (some { code := code * 64 + (b.toNat - 0x80), due := due - 1 }) rest :=
  readBehind_within (p := { code, due }) h rest

theorem toNat_ofNat {n : Nat} (h : n < 256) : (UInt8.ofNat n).toNat = n := by
  rw [UInt8.toNat_ofNat']
  omega

section

variable {a b c d : UInt8} {v : Nat} (rest : Bytes)

theorem readBehind_two (hv : 0x80 ≤ v ∧ v < 0x800) (ha : a.toNat = v / 64 % 32 + 0xC0)
    (hb : b.toNat = v % 64 + 0x80) :
    readBehind none (a :: b :: rest) = some (Char.ofNat v) :: readBehind none rest := by
  have hcode : (v / 64 % 32 + 0xC0 - 0xC0) * 64 + (v % 64 + 0x80 - 0x80) = v := by omega
  rw [readBehind_more (start_two (by omega)), readBehind_tail (by omega), if_pos (by omega), ha, hb,
    hcode]

theorem readBehind_three (hv : 0x800 ≤ v ∧ v < 0x10000) (hsurrogate : v < 0xD800 ∨ 0xDFFF < v)
    (ha : a.toNat = v / 4096 % 16 + 0xE0) (hb : b.toNat = v / 64 % 64 + 0x80)
    (hc : c.toNat = v % 64 + 0x80) :
    readBehind none (a :: b :: c :: rest) = some (Char.ofNat v) :: readBehind none rest := by
  have hcode : ((v / 4096 % 16 + 0xE0 - 0xE0) * 64 + (v / 64 % 64 + 0x80 - 0x80)) * 64 +
      (v % 64 + 0x80 - 0x80) = v := by omega
  -- A first byte `0xE0` or `0xED` narrows the second one, as the bounds on `v` do.
  have hleast : (if a.toNat = 0xE0 then (0xA0 : UInt8) else 0x80).toNat ≤ b.toNat := by
    split <;> simp only [UInt8.reduceToNat] <;> omega
  have hgreatest : b.toNat ≤ (if a.toNat = 0xED then (0x9F : UInt8) else 0xBF).toNat := by
    split <;> simp only [UInt8.reduceToNat] <;> omega
  rw [readBehind_more (start_three (by omega)), readBehind_within ⟨hleast, hgreatest⟩,
    if_neg (by simp), readBehind_tail (by omega), if_pos (by simp), ha, hb, hc, hcode]

theorem readBehind_four (hv : 0x10000 ≤ v ∧ v < 0x110000) (ha : a.toNat = v / 262144 % 8 + 0xF0)
    (hb : b.toNat = v / 4096 % 64 + 0x80) (hc : c.toNat = v / 64 % 64 + 0x80)
    (hd : d.toNat = v % 64 + 0x80) :
    readBehind none (a :: b :: c :: d :: rest) = some (Char.ofNat v) :: readBehind none rest := by
  have hcode : (((v / 262144 % 8 + 0xF0 - 0xF0) * 64 + (v / 4096 % 64 + 0x80 - 0x80)) * 64 +
      (v / 64 % 64 + 0x80 - 0x80)) * 64 + (v % 64 + 0x80 - 0x80) = v := by omega
  have hleast : (if a.toNat = 0xF0 then (0x90 : UInt8) else 0x80).toNat ≤ b.toNat := by
    split <;> simp only [UInt8.reduceToNat] <;> omega
  have hgreatest : b.toNat ≤ (if a.toNat = 0xF4 then (0x8F : UInt8) else 0xBF).toNat := by
    split <;> simp only [UInt8.reduceToNat] <;> omega
  rw [readBehind_more (start_four (by omega)), readBehind_within ⟨hleast, hgreatest⟩,
    if_neg (by simp), readBehind_tail (by omega), if_neg (by simp), readBehind_tail (by omega),
    if_pos (by simp), ha, hb, hc, hd, hcode]

end

/-- The encoding of one character in front of other bytes. -/
theorem readBehind_utf8EncodeChar (c : Char) (rest : Bytes) :
    readBehind none (String.utf8EncodeChar c ++ rest) = some c :: readBehind none rest := by
  have hvalid : c.toNat < 0xD800 ∨ (0xDFFF < c.toNat ∧ c.toNat < 0x110000) := c.valid
  have hval : c.val.toNat = c.toNat := rfl
  have hchar : Char.ofNat c.toNat = c := Char.ofNat_toNat c
  rw [String.utf8EncodeChar, hval]
  generalize c.toNat = v at *
  rw [← hchar]
  -- One case for each length of an encoding.
  split
  · have ha := toNat_ofNat (show v < 256 by omega)
    rw [List.singleton_append, readBehind_char (start_one (by omega)), ha]
  · split
    · exact readBehind_two rest (by omega) (toNat_ofNat (by omega)) (toNat_ofNat (by omega))
    · split
      · exact readBehind_three rest (by omega) (by omega) (toNat_ofNat (by omega))
          (toNat_ofNat (by omega)) (toNat_ofNat (by omega))
      · exact readBehind_four rest (by omega) (toNat_ofNat (by omega)) (toNat_ofNat (by omega))
          (toNat_ofNat (by omega)) (toNat_ofNat (by omega))

theorem read_encode (s : List Char) : read (encode s) = s.map some := by
  induction s with
  | nil => rfl
  | cons c s ih =>
    rw [read, encode, List.flatMap_cons, readBehind_utf8EncodeChar, List.map_cons]
    rw [read, encode] at ih
    rw [ih]

/-- No byte of an encoded text is taken for a fault. -/
theorem decodeLenient_encode (s : List Char) : decodeLenient (encode s) = s := by
  rw [decodeLenient, read_encode, List.map_map]
  exact List.map_id' s

/-- Bytes that encode a text are read as that text. -/
theorem decode?_encode (s : List Char) : decode? (encode s) = some s := by
  rw [decode?, read_encode]
  induction s with
  | nil => rfl
  | cons c s ih =>
    rw [List.map_cons, List.mapM_cons, ih]
    rfl

end VehicleRecords.Text.Utf8
