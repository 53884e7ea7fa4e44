import VehicleRecords.Json.Printer
import VehicleRecords.Proofs.Text.Decimal
import VehicleRecords.Proofs.Text.Split

namespace VehicleRecords.Json

/-! ## Digits -/

def digitValue (c : Char) : Nat := c.toNat - '0'.toNat

/-- Digits in front of something else are read to their end. -/
theorem digitsOf_append {ds rest : List Char} (hds : ∀ c ∈ ds, c.isDigit = true)
    (hrest : ∀ c ∈ rest.head?, c.isDigit = false) :
    digitsOf (ds ++ rest) = (ds.map digitValue, rest) := by
  rw [digitsOf, Text.span_append hds hrest]
  rfl

theorem ofDigits_map (ds : List Char) :
    ofDigits (ds.map digitValue) = Nat.ofDigitChars 10 ds 0 := by
  rw [ofDigits, List.foldl_map, Nat.ofDigitChars_eq_foldl]
  rfl

/-- The digits of a number are one zero alone, or they begin with another digit. -/
theorem digits_cases (n : Nat) : (Nat.toDigits 10 n).map digitValue = [0] ∨
    ∃ d ds, (Nat.toDigits 10 n).map digitValue = d :: ds ∧ d ≠ 0 := by
  rcases Nat.eq_zero_or_pos n with rfl | hn
  · exact .inl rfl
  · obtain ⟨c, s, hs, hc⟩ := Text.head_toDigits hn
    rw [hs]
    exact .inr ⟨digitValue c, s.map digitValue, rfl, hc⟩

/-! ## The parts of a number -/

namespace Number

def printFraction (fraction : List Nat) : List Char :=
  if fraction.isEmpty then [] else '.' :: fraction.map Text.hexDigit

def printExponent : Option Int → List Char
  | none => []
  | some e => 'e' :: (toString e).toList

theorem printNumber_eq (n : Number) :
    printNumber n = (if n.negative then ['-'] else []) ++
      (Nat.toDigits 10 n.whole ++ (printFraction n.fraction ++ printExponent n.exponent)) := by
  rw [printNumber, printFraction]
  cases n.exponent <;> simp only [printExponent, List.append_assoc]

theorem decimal_hexDigit : ∀ d < 10, (Text.hexDigit d).isDigit = true ∧
    digitValue (Text.hexDigit d) = d := by decide

theorem readFraction?_print {fraction : List Nat} (h : ∀ d ∈ fraction, d < 10) (e : Option Int) :
    readFraction? (printFraction fraction ++ printExponent e) =
      some (fraction, printExponent e) := by
  cases fraction with
  | nil => cases e <;> rfl
  | cons d ds =>
    have hdigits : ∀ c ∈ (d :: ds).map Text.hexDigit, c.isDigit = true := by
      rw [List.forall_mem_map]
      exact fun x hx => (decimal_hexDigit x (h x hx)).1
    have hvalues : ((d :: ds).map Text.hexDigit).map digitValue = d :: ds := by
      rw [List.map_map]
      refine (List.map_congr_left fun x hx => ?_).trans (List.map_id _)
      exact (decimal_hexDigit x (h x hx)).2
    have hrest : ∀ c ∈ (printExponent e).head?, c.isDigit = false := by
      cases e with
      | none => nofun
      | some e =>
        rintro _ ⟨rfl⟩
        rfl
    have hprint : printFraction (d :: ds) ++ printExponent e =
        '.' :: ((d :: ds).map Text.hexDigit ++ printExponent e) := rfl
    rw [hprint, readFraction?, digitsOf_append hdigits hrest, hvalues]

theorem readPower?_toDigits (sign : Int) (n : Nat) :
    readPower? sign (Nat.toDigits 10 n) = some (sign * n) := by
  have hdigits : digitsOf (Nat.toDigits 10 n ++ []) = ((Nat.toDigits 10 n).map digitValue, []) :=
    digitsOf_append (Text.isDigit_of_mem_toDigits n) nofun
  rw [List.append_nil] at hdigits
  rw [readPower?, hdigits]
  cases hmap : (Nat.toDigits 10 n).map digitValue with
  | nil => exact absurd (List.map_eq_nil_iff.1 hmap) Nat.toDigits_ne_nil
  | cons d ds =>
    dsimp only
    rw [← hmap, ofDigits_map, Nat.ofDigitChars_ten_toDigits]

theorem readExponent?_print (e : Option Int) : readExponent? (printExponent e) = some e := by
  cases e with
  | none => rfl
  | some e =>
    cases e with
    | negSucc n =>
      have hread (s : List Char) :
          readExponent? ('e' :: '-' :: s) = (readPower? (-1) s).map some := rfl
      rw [printExponent, Text.toList_negSucc, hread, readPower?_toDigits, Option.map_some,
        Int.neg_one_mul, Int.negSucc_eq]
      rfl
    | ofNat n =>
      obtain ⟨c, s, hs, hc⟩ := Text.first_toDigits n
      obtain ⟨hminus, hplus⟩ := Text.ne_sign_of_isDigit hc
      have hread : readExponent? ('e' :: c :: s) = (readPower? 1 (c :: s)).map some := by
        rw [readExponent?, if_pos (.inl rfl)] <;> simp_all
      rw [printExponent, Text.toList_ofNat, hs, hread, ← hs, readPower?_toDigits, Option.map_some,
        Int.one_mul]
      rfl

/-! ## The whole number -/

theorem readUnsigned?_print (n : Number) (h : ∀ d ∈ n.fraction, d < 10) (negative : Bool) :
    readUnsigned? negative (Nat.toDigits 10 n.whole ++
      (printFraction n.fraction ++ printExponent n.exponent)) = some { n with negative } := by
  have hrest : ∀ c ∈ (printFraction n.fraction ++ printExponent n.exponent).head?,
      c.isDigit = false := by
    cases n.fraction with
    | cons d ds =>
      rintro _ ⟨rfl⟩
      rfl
    | nil =>
      cases n.exponent with
      | none => nofun
      | some e =>
        rintro _ ⟨rfl⟩
        rfl
  have hvalue : ofDigits ((Nat.toDigits 10 n.whole).map digitValue) = n.whole := by
    rw [ofDigits_map, Nat.ofDigitChars_ten_toDigits]
  rw [readUnsigned?, digitsOf_append (Text.isDigit_of_mem_toDigits n.whole) hrest]
  -- Neither are there no digits, nor is there a zero in front of another one.
  rcases digits_cases n.whole with hzero | ⟨d, ds, hds, hd⟩
  · rw [hzero] at hvalue ⊢
    simp only [readFraction?_print h, readExponent?_print, hvalue, Option.bind_eq_bind,
      Option.bind_some]
    rfl
  · rw [hds] at hvalue ⊢
    cases d with
    | zero => exact absurd rfl hd
    | succ d =>
      simp only [readFraction?_print h, readExponent?_print, hvalue, Option.bind_eq_bind,
        Option.bind_some]
      rfl

/-- A number is read as it is written: sign, whole part, fraction and exponent. -/
theorem ofText?_printNumber (n : Number) (h : ∀ d ∈ n.fraction, d < 10) :
    ofText? (printNumber n) = some n := by
  have hread := readUnsigned?_print n h n.negative
  rw [printNumber_eq]
  cases hn : n.negative with
  | true =>
    rw [hn] at hread
    refine hread.trans ?_
    rw [← hn]
  | false =>
    obtain ⟨c, s, hs, hc⟩ := Text.first_toDigits n.whole
    have hunsigned (rest : List Char) : ofText? (c :: rest) = readUnsigned? false (c :: rest) := by
      have hminus := (Text.ne_sign_of_isDigit hc).1
      rw [ofText?]
      simp_all
    rw [hn, hs] at hread
    rw [if_neg Bool.false_ne_true, List.nil_append, hs, List.cons_append, hunsigned]
    refine hread.trans ?_
    rw [← hn]

def IsNumeric (c : Char) : Prop := c.isDigit = true ∨ c = '-' ∨ c = '.' ∨ c = 'e'

/-- A written number has no character that ends a word, so it is one token. -/
theorem isNumeric_printNumber (n : Number) (h : ∀ d ∈ n.fraction, d < 10) :
    ∀ c ∈ printNumber n, IsNumeric c := by
  have hdigits (k : Nat) (c : Char) (hc : c ∈ Nat.toDigits 10 k) : IsNumeric c :=
    .inl (Text.isDigit_of_mem_toDigits k c hc)
  rw [printNumber_eq, List.forall_mem_append, List.forall_mem_append, List.forall_mem_append]
  refine ⟨?sign, hdigits n.whole, ?fraction, ?exponent⟩
  case sign =>
    split
    · rintro _ (_ | ⟨_, ⟨⟩⟩)
      exact .inr (.inl rfl)
    · nofun
  case fraction =>
    rw [printFraction]
    split
    · nofun
    · rw [List.forall_mem_cons, List.forall_mem_map]
      exact ⟨.inr (.inr (.inl rfl)), fun d hd => .inl (decimal_hexDigit d (h d hd)).1⟩
  case exponent =>
    cases n.exponent with
    | none => nofun
    | some e =>
      rw [printExponent, List.forall_mem_cons]
      refine ⟨.inr (.inr (.inr rfl)), ?_⟩
      cases e with
      | ofNat k =>
        rw [Text.toList_ofNat]
        exact hdigits k
      | negSucc k =>
        rw [Text.toList_negSucc, List.forall_mem_cons]
        exact ⟨.inr (.inl rfl), hdigits (k + 1)⟩

/-- A number is written with a sign or a digit in front. -/
theorem first_printNumber (n : Number) :
    ∃ c s, printNumber n = c :: s ∧ (c.isDigit = true ∨ c = '-') := by
  rw [printNumber_eq]
  split
  · exact ⟨'-', _, rfl, .inr rfl⟩
  · obtain ⟨c, s, hs, hc⟩ := Text.first_toDigits n.whole
    rw [hs]
    exact ⟨c, _, rfl, .inl hc⟩

/-- An integer of 64 bits, with or without a sign, is written as itself. -/
theorem integer?_ofInt {n : Int} (hleast : Text.IntegerRange.int64.least ≤ n)
    (hgreatest : n ≤ Text.IntegerRange.uint64.greatest) : (ofInt n).integer? = some n := by
  have hvalue : (if (ofInt n).negative then -((ofInt n).whole : Int) else (ofInt n).whole) = n := by
    simp only [ofInt, decide_eq_true_eq]
    split <;> omega
  have hzero : ((ofInt n).negative && (ofInt n).whole == 0) = false := by
    simp only [ofInt, Bool.and_eq_false_iff, decide_eq_false_iff_not, beq_eq_false_iff_ne]
    omega
  simp only [integer?, hvalue, hzero, hleast, hgreatest, decide_true, Bool.not_false, Bool.and_true]
  rfl

end Number

end VehicleRecords.Json
