import Mathlib.Data.List.Basic
import VehicleRecords.Proofs.Text.Form
import VehicleRecords.Url.Escape

/-!
Escaped texts. Whatever characters are kept, the escapes are read as the text again
(`unescape_escape`), and only a text of kept characters is its own escaped form
(`escape_eq_self_iff`).
-/
namespace VehicleRecords.Url

open Text (percentEscape percentDecode percentDecode_cons_ne percentDecode_percentEscape)
open Text.Utf8 (encode)

def unescape (s : String) : String :=
  String.ofList (Text.Utf8.decodeLenient (percentDecode (bytesOf s)))

def isEscapeChar (c : Char) : Bool := c == '%' || c.isDigit || ('A' ≤ c && c ≤ 'F')

/-! ## Bytes of characters -/

theorem toNat_lt_of_isPrintable {c : Char} (h : isPrintable c = true) :
    0x20 ≤ c.toNat ∧ c.toNat < 0x7F := by
  rw [isPrintable, Bool.and_eq_true, decide_eq_true_eq, decide_eq_true_eq] at h
  have hlow : ' '.toNat ≤ c.toNat := h.1
  have hhigh : c.toNat ≤ '~'.toNat := h.2
  exact ⟨hlow, Nat.lt_succ_of_le hhigh⟩

/-- A property of ASCII characters that was checked for each of them. -/
theorem ascii_forall {p : Char → Prop} (h : ∀ n : Fin 128, p (Char.ofNat n)) {c : Char}
    (hc : c.toNat < 128) : p c := by
  have hp := h ⟨c.toNat, hc⟩
  rwa [Char.ofNat_toNat] at hp

theorem utf8EncodeChar_of_ascii {c : Char} (h : c.toNat < 0x80) :
    String.utf8EncodeChar c = [UInt8.ofNat c.toNat] := by
  have hval : c.val.toNat = c.toNat := rfl
  rw [String.utf8EncodeChar, hval]
  exact if_pos (by omega)

theorem le_of_mem_utf8EncodeChar {c : Char} (h : 0x80 ≤ c.toNat) {b : UInt8}
    (hb : b ∈ String.utf8EncodeChar c) : 0x80 ≤ b.toNat := by
  have hval : c.val.toNat = c.toNat := rfl
  rw [String.utf8EncodeChar, hval] at hb
  have hvalid : c.toNat < 0x110000 := by
    have := c.valid
    have hval' : c.val.toNat < 0xD800 ∨ 0xDFFF < c.val.toNat ∧ c.val.toNat < 0x110000 := this
    omega
  split at hb
  · omega
  · split at hb
    · simp only [List.mem_cons, List.not_mem_nil, or_false] at hb
      rcases hb with rfl | rfl <;> rw [Text.Utf8.toNat_ofNat (by omega)] <;> omega
    · split at hb
      · simp only [List.mem_cons, List.not_mem_nil, or_false] at hb
        rcases hb with rfl | rfl | rfl <;> rw [Text.Utf8.toNat_ofNat (by omega)] <;> omega
      · simp only [List.mem_cons, List.not_mem_nil, or_false] at hb
        rcases hb with rfl | rfl | rfl | rfl <;> rw [Text.Utf8.toNat_ofNat (by omega)] <;> omega

/-- An ASCII byte encodes the character with its code and is part of no other one. -/
theorem toNat_eq_of_mem_utf8EncodeChar {c : Char} {b : UInt8} (hb : b ∈ String.utf8EncodeChar c)
    (hascii : b.toNat < 0x80) : b.toNat = c.toNat := by
  by_cases hc : c.toNat < 0x80
  · rw [utf8EncodeChar_of_ascii hc, List.mem_singleton] at hb
    rw [hb, Text.Utf8.toNat_ofNat (by omega)]
  · exact absurd (le_of_mem_utf8EncodeChar (Nat.le_of_not_lt hc) hb) (Nat.not_le.2 hascii)

/-! ## One character -/

variable (keeps : Char → Bool)

theorem escape_nil : escape keeps [] = [] := rfl

theorem escape_cons (c : Char) (s : List Char) :
    escape keeps (c :: s) = escape keeps [c] ++ escape keeps s := by
  rw [escape, Text.Utf8.encode_cons, Text.percentEncode, List.flatMap_append]
  rfl

/-- A character is kept, or all its bytes are escaped. -/
theorem escape_char_cases (c : Char) :
    (c.toNat < 0x80 ∧ keeps c = true ∧ escape keeps [c] = [c]) ∨
    (¬ (c.toNat < 0x80 ∧ keeps c = true) ∧
      escape keeps [c] = (String.utf8EncodeChar c).flatMap percentEscape) := by
  have hescape : escape keeps [c] = (String.utf8EncodeChar c).flatMap fun b =>
      if b < 0x80 && keeps (Char.ofNat b.toNat) then [Char.ofNat b.toNat] else percentEscape b := by
    rw [escape, encode, List.flatMap_singleton, Text.percentEncode]
  by_cases hascii : c.toNat < 0x80
  · have hbyte : (UInt8.ofNat c.toNat).toNat = c.toNat := Text.Utf8.toNat_ofNat (by omega)
    have hlt : UInt8.ofNat c.toNat < 0x80 := by
      rw [UInt8.lt_iff_toNat_lt, hbyte]
      exact hascii
    rw [hescape, utf8EncodeChar_of_ascii hascii, List.flatMap_singleton, List.flatMap_singleton,
      hbyte, Char.ofNat_toNat]
    by_cases hkeeps : keeps c = true
    · exact .inl ⟨hascii, hkeeps, if_pos (by simp [hlt, hkeeps])⟩
    · exact .inr ⟨fun h => hkeeps h.2, if_neg (by simp [hkeeps])⟩
  · refine .inr ⟨fun h => hascii h.1, ?_⟩
    rw [hescape]
    refine List.flatMap_congr fun b hb => if_neg ?_
    have hlarge := le_of_mem_utf8EncodeChar (Nat.le_of_not_lt hascii) hb
    have hnot : ¬ b < 0x80 := by
      rw [UInt8.lt_iff_toNat_lt]
      exact Nat.not_lt.2 hlarge
    simp [hnot]

theorem all_isEscapeChar_percentEscape (b : UInt8) : (percentEscape b).all isEscapeChar = true := by
  revert b
  exact Text.byte_forall (by decide +kernel)

theorem length_flatMap_percentEscape (bytes : Bytes) :
    (bytes.flatMap percentEscape).length = 3 * bytes.length := by
  induction bytes with
  | nil => rfl
  | cons b bytes ih =>
    rw [List.flatMap_cons, List.length_append, ih, List.length_cons, percentEscape]
    simp only [List.length_cons, List.length_nil]
    omega

theorem length_utf8EncodeChar_pos (c : Char) : 0 < (String.utf8EncodeChar c).length := by
  rw [String.length_utf8EncodeChar]
  exact c.utf8Size_pos

/-! ## Texts -/

/-- What an escaped text is made of. -/
theorem mem_escape {s : List Char} {d : Char} (h : d ∈ escape keeps s) :
    (d ∈ s ∧ keeps d = true ∧ d.toNat < 0x80) ∨ isEscapeChar d = true := by
  induction s with
  | nil => exact absurd h List.not_mem_nil
  | cons c s ih =>
    rw [escape_cons, List.mem_append] at h
    rcases h with h | h
    · rcases escape_char_cases keeps c with ⟨hascii, hkeeps, hself⟩ | ⟨-, hescaped⟩
      · rw [hself, List.mem_singleton] at h
        subst h
        exact .inl ⟨List.mem_cons_self, hkeeps, hascii⟩
      · rw [hescaped, List.mem_flatMap] at h
        obtain ⟨b, -, hd⟩ := h
        exact .inr (List.all_eq_true.1 (all_isEscapeChar_percentEscape b) d hd)
    · rcases ih h with ⟨hmem, hkept⟩ | hescape
      · exact .inl ⟨List.mem_cons_of_mem c hmem, hkept⟩
      · exact .inr hescape

/-- Where all characters of escapes are kept, an escaped text has none but kept characters. -/
theorem keeps_of_mem_escape {s : List Char} {d : Char} {keeps' : Char → Bool}
    (hkeeps : ∀ c, keeps c = true → keeps' c = true)
    (hescape : ∀ c, isEscapeChar c = true → keeps' c = true) (h : d ∈ escape keeps s) :
    keeps' d = true := by
  rcases mem_escape keeps h with ⟨-, hkept, -⟩ | hd
  · exact hkeeps d hkept
  · exact hescape d hd

/-- Marks that are neither kept nor part of escapes are not in escaped texts. -/
theorem disjoint_escape {keeps : Char → Bool} {marks : List Char}
    (h : ∀ c ∈ marks, keeps c = false ∧ isEscapeChar c = false) (s : List Char) :
    marks.Disjoint (escape keeps s) := by
  intro c hc hmem
  obtain ⟨hkeeps, hescape⟩ := h c hc
  rcases mem_escape keeps hmem with ⟨-, hkept, -⟩ | hdigit
  · rw [hkeeps] at hkept
    cases hkept
  · rw [hescape] at hdigit
    cases hdigit

theorem length_le_escape (s : List Char) : s.length ≤ (escape keeps s).length := by
  induction s with
  | nil => exact Nat.le_refl 0
  | cons c s ih =>
    have hpos := length_utf8EncodeChar_pos c
    have hone : 1 ≤ (escape keeps [c]).length := by
      rcases escape_char_cases keeps c with ⟨-, -, hself⟩ | ⟨-, hescaped⟩
      · rw [hself, List.length_singleton]
      · rw [hescaped, length_flatMap_percentEscape]
        omega
    rw [escape_cons, List.length_append, List.length_cons]
    omega

theorem escape_eq_nil_iff (s : List Char) : escape keeps s = [] ↔ s = [] := by
  constructor
  · intro h
    have hlength := length_le_escape keeps s
    rw [h, List.length_nil] at hlength
    exact List.eq_nil_of_length_eq_zero (Nat.le_zero.1 hlength)
  · rintro rfl
    rfl

/-- Only a text of kept characters is its own escaped form. -/
theorem escape_eq_self_iff (s : List Char) :
    escape keeps s = s ↔ ∀ c ∈ s, c.toNat < 0x80 ∧ keeps c = true := by
  induction s with
  | nil => exact iff_of_true rfl nofun
  | cons c s ih =>
    rw [List.forall_mem_cons, ← ih, escape_cons]
    rcases escape_char_cases keeps c with ⟨hascii, hkeeps, hself⟩ | ⟨hnot, hescaped⟩
    · rw [hself, List.singleton_append, List.cons.injEq, eq_self, true_and,
        and_iff_right ⟨hascii, hkeeps⟩]
    · -- An escape is longer than what it stands for, and the rest does not get shorter.
      refine iff_of_false (fun h => ?_) fun h => hnot h.1
      have hlength := congrArg List.length h
      have hpos := length_utf8EncodeChar_pos c
      have hrest := length_le_escape keeps s
      rw [hescaped, List.length_append, length_flatMap_percentEscape, List.length_cons] at hlength
      omega

/-! ## Reading escapes -/

theorem percentDecode_flatMap (bytes rest : Bytes) :
    percentDecode (encode (bytes.flatMap percentEscape) ++ rest) = bytes ++ percentDecode rest := by
  induction bytes with
  | nil => rfl
  | cons b bytes ih =>
    rw [List.flatMap_cons, Text.Utf8.encode_append, List.append_assoc, percentDecode_percentEscape, ih,
      List.cons_append]

variable {keeps}

/-- By induction on the text: each character gives back its own bytes. -/
theorem percentDecode_escape (hpercent : keeps '%' = false) (s : List Char) :
    percentDecode (encode (escape keeps s)) = encode s := by
  induction s with
  | nil => rfl
  | cons c s ih =>
    have hencode : encode [c] = String.utf8EncodeChar c := List.flatMap_singleton ..
    rw [escape_cons, Text.Utf8.encode_append, Text.Utf8.encode_cons c s]
    rcases escape_char_cases keeps c with ⟨hascii, hkeeps, hself⟩ | ⟨-, hescaped⟩
    · -- A kept character is not the one that begins an escape.
      have hne : UInt8.ofNat c.toNat ≠ 0x25 := by
        intro heq
        have hnat := congrArg UInt8.toNat heq
        rw [Text.Utf8.toNat_ofNat (by omega)] at hnat
        have hchar : c = '%' := Char.toNat_inj.1 hnat
        rw [hchar, hpercent] at hkeeps
        cases hkeeps
      rw [hself, hencode, utf8EncodeChar_of_ascii hascii, List.singleton_append,
        percentDecode_cons_ne hne, ih, List.singleton_append]
    · rw [hescaped, percentDecode_flatMap, ih, hencode]

/-- An escaped text is read as the text that was escaped. -/
theorem unescape_escape (hpercent : keeps '%' = false) (s : String) :
    unescape (String.ofList (escape keeps s.toList)) = s := by
  rw [unescape, bytesOf, String.toList_ofList, percentDecode_escape hpercent,
    Text.Utf8.decodeLenient_encode, String.ofList_toList]

end VehicleRecords.Url
