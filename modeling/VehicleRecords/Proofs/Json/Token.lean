import VehicleRecords.Proofs.Json.Number
import VehicleRecords.Proofs.Text.Utf8

/-!
Tokens read back. Written words, numbers and strings are each found as one token in front of
whatever follows them; a string comes back whatever its characters are
(`tokensBehind_printString`).
-/
namespace VehicleRecords.Json

def Scanner.run? (s : Scanner) (text : List Char) : Option (List Token) :=
  ((text.map some).foldlM Scanner.step s).bind Scanner.finish?

/-- The tokens of a text behind those that have been found, the latest first. -/
def tokensBehind (found : List Token) (text : List Char) : Option (List Token) :=
  Scanner.run? ⟨.between, found⟩ text

/-- A text of characters has the tokens that a scan from its start finds. -/
theorem tokens?_encode (text : List Char) :
    tokens? (Text.Utf8.encode text) = tokensBehind [] text := by
  rw [tokens?, Text.Utf8.read_encode]
  rfl

namespace Scanner

theorem run?_cons (s : Scanner) (c : Char) (text : List Char) :
    run? s (c :: text) = (s.step (some c)).bind fun s => run? s text := by
  rw [run?, List.map_cons, List.foldlM_cons]
  cases s.step (some c) <;> rfl

/-! ## Words -/

def Ends (rest : List Char) : Prop := ∀ c ∈ rest.head?, isDelimiter c = true

theorem start_of_letter {c : Char} (h : isDelimiter c = false) (found : List Token) :
    start found c = ⟨.word [c], found⟩ := by
  simp only [isDelimiter, Bool.or_eq_false_iff, beq_eq_false_iff_ne, Option.isSome_eq_false_iff,
    Option.isNone_iff_eq_none] at h
  obtain ⟨⟨hspace, hquote⟩, hmark⟩ := h
  rw [start, hspace, if_neg Bool.false_ne_true, if_neg hquote, hmark]

/-- A character behind a part of a word. -/
theorem step_word (found : List Token) (letters : List Char) (c : Char) :
    step ⟨.word letters, found⟩ (some c) =
      if isDelimiter c then (Token.ofWord? letters.reverse).map fun t => start (t :: found) c
      else some ⟨.word (c :: letters), found⟩ := rfl

theorem run?_letters (found : List Token) (letters word rest : List Char)
    (h : word.any isDelimiter = false) :
    run? ⟨.word letters, found⟩ (word ++ rest) =
      run? ⟨.word (word.reverse ++ letters), found⟩ rest := by
  induction word generalizing letters with
  | nil => rfl
  | cons c word ih =>
    rw [List.any_cons, Bool.or_eq_false_iff] at h
    have hstep : step ⟨.word letters, found⟩ (some c) = some ⟨.word (c :: letters), found⟩ := by
      rw [step_word, h.1, if_neg Bool.false_ne_true]
    rw [List.cons_append, run?_cons, hstep, Option.bind_some, ih _ h.2, List.reverse_cons,
      List.append_assoc, List.singleton_append]

theorem run?_end_of_word {letters : List Char} {t : Token}
    (ht : Token.ofWord? letters.reverse = some t) (found : List Token) {rest : List Char} (hrest : Ends rest) :
    run? ⟨.word letters, found⟩ rest = tokensBehind (t :: found) rest := by
  cases rest with
  | nil =>
    have hfinish : run? ⟨.word letters, found⟩ [] =
        (Token.ofWord? letters.reverse).map fun t => (t :: found).reverse := rfl
    rw [hfinish, ht]
    rfl
  | cons c rest =>
    have hstep : step ⟨.word letters, found⟩ (some c) = some (start (t :: found) c) := by
      rw [step_word, hrest c rfl, if_pos rfl, ht, Option.map_some]
    rw [run?_cons, hstep, tokensBehind, run?_cons]
    rfl

/-- A word is one token. -/
theorem tokensBehind_word {word : List Char} (hne : word ≠ [])
    (h : word.any isDelimiter = false) {t : Token} (ht : Token.ofWord? word = some t)
    (found : List Token) {rest : List Char} (hrest : Ends rest) :
    tokensBehind found (word ++ rest) = tokensBehind (t :: found) rest := by
  cases word with
  | nil => exact absurd rfl hne
  | cons c word =>
    rw [List.any_cons, Bool.or_eq_false_iff] at h
    have hstep : step ⟨.between, found⟩ (some c) = some ⟨.word [c], found⟩ :=
      congrArg some (start_of_letter h.1 found)
    rw [tokensBehind, List.cons_append, run?_cons, hstep, Option.bind_some,
      run?_letters found [c] word rest h.2]
    refine run?_end_of_word ?_ found hrest
    rwa [List.reverse_append, List.reverse_reverse, List.reverse_singleton, List.singleton_append]

def delimiters : List Char := [' ', '\n', '\r', '\t', '"', '[', ']', '{', '}', ',', ':']

theorem mem_delimiters {c : Char} (h : isDelimiter c = true) : c ∈ delimiters := by
  have hmark : (Token.ofMark? c).isSome = true → c ∈ delimiters := by
    intro h
    unfold Token.ofMark? at h
    split at h <;> first | decide | cases h
  simp only [isDelimiter, isSpace, Bool.or_eq_true, beq_iff_eq] at h
  obtain ((((rfl | rfl) | rfl) | rfl) | rfl) | h := h
  all_goals first | decide | exact hmark h

theorem isDelimiter_of_isNumeric {c : Char} (h : Number.IsNumeric c) : isDelimiter c = false := by
  have hnone : delimiters.any (fun d => d.isDigit || d == '-' || d == '.' || d == 'e') = false := by
    decide
  by_contra hdelimiter
  have hmem := mem_delimiters (Bool.eq_true_of_not_eq_false hdelimiter)
  have hother := List.any_eq_false.1 hnone c hmem
  simp only [Bool.or_eq_true, beq_iff_eq, or_assoc] at hother
  exact hother h

/-- A written number is one token. -/
theorem tokensBehind_number (n : Number) (h : ∀ d ∈ n.fraction, d < 10) (found : List Token)
    {rest : List Char} (hrest : Ends rest) :
    tokensBehind found (printNumber n ++ rest) = tokensBehind (.number n :: found) rest := by
  obtain ⟨c, s, hs, hc⟩ := Number.first_printNumber n
  have hword : Token.ofWord? (printNumber n) = some (.number n) := by
    -- The first character is that of no other word.
    have hother : c ≠ 'n' ∧ c ≠ 't' ∧ c ≠ 'f' := by
      refine ⟨?_, ?_, ?_⟩ <;> (rintro rfl; revert hc; decide)
    have hread := Number.ofText?_printNumber n h
    rw [hs] at hread ⊢
    rw [Token.ofWord?, if_neg, if_neg, if_neg, hread, Option.map_some]
    · exact fun h => hother.2.2 (List.cons.inj h).1
    · exact fun h => hother.2.1 (List.cons.inj h).1
    · exact fun h => hother.1 (List.cons.inj h).1
  refine tokensBehind_word ?_ ?_ hword found hrest
  · rw [hs]
    exact List.cons_ne_nil c s
  · rw [List.any_eq_false]
    intro c hc
    rw [isDelimiter_of_isNumeric (Number.isNumeric_printNumber n h c hc)]
    exact Bool.false_ne_true

/-! ## Strings -/

theorem step_code {n : Nat} (hn : n < 16) (found : List Token) (pieces : List Piece)
    (digits : List Nat) : step ⟨.code pieces digits, found⟩ (some (Text.hexDigit n)) =
      some (match digits with
        | [z, y, x] => ⟨.text (.ofCode (((x * 16 + y) * 16 + z) * 16 + n) :: pieces), found⟩
        | digits => ⟨.code pieces (n :: digits), found⟩) := by
  have hstep : step ⟨.code pieces digits, found⟩ (some (Text.hexDigit n)) =
      stepCode found pieces digits (Text.hexDigit n) := rfl
  rw [hstep, stepCode, Text.digitValue?_hexDigit n hn, Option.map_some]
  split
  · rfl
  · next hfew =>
    split
    · exact absurd rfl (hfew _ _ _)
    · rfl

/-- An escape of four hexadecimal digits stands for the control character with that code. -/
theorem run?_code (found : List Token) (pieces : List Piece) (c : Char) (rest : List Char)
    (h : c < ' ') :
    run? ⟨.text pieces, found⟩ (['\\', 'u', '0', '0', Text.hexDigit (c.toNat / 16),
        Text.hexDigit (c.toNat % 16)] ++ rest) = run? ⟨.text (.char c :: pieces), found⟩ rest := by
  have hcode : c.toNat < 32 := h
  have hthird {n : Nat} (hn : n < 16) (text : List Char) :
      run? ⟨.code pieces [0, 0], found⟩ (Text.hexDigit n :: text) =
        run? ⟨.code pieces [n, 0, 0], found⟩ text := by
    rw [run?_cons, step_code hn]
    rfl
  have hfourth {n : Nat} (hn : n < 16) (y : Nat) (text : List Char) :
      run? ⟨.code pieces [y, 0, 0], found⟩ (Text.hexDigit n :: text) =
        run? ⟨.text (.ofCode (y * 16 + n) :: pieces), found⟩ text := by
    have hvalue : ((0 * 16 + 0) * 16 + y) * 16 + n = y * 16 + n := by omega
    rw [run?_cons, step_code hn, Option.bind_some]
    dsimp only
    rw [hvalue]
  have hpiece : Piece.ofCode (c.toNat / 16 * 16 + c.toNat % 16) = .char c := by
    rw [Nat.div_add_mod', Piece.ofCode, if_neg (by omega), Char.ofNat_toNat]
  have hopen (text : List Char) : run? ⟨.text pieces, found⟩ ('\\' :: 'u' :: '0' :: '0' :: text) =
      run? ⟨.code pieces [0, 0], found⟩ text := rfl
  calc run? ⟨.text pieces, found⟩ (['\\', 'u', '0', '0', Text.hexDigit (c.toNat / 16),
        Text.hexDigit (c.toNat % 16)] ++ rest)
    _ = run? ⟨.code pieces [0, 0], found⟩ (Text.hexDigit (c.toNat / 16) ::
        Text.hexDigit (c.toNat % 16) :: rest) := hopen _
    _ = run? ⟨.code pieces [c.toNat / 16, 0, 0], found⟩ (Text.hexDigit (c.toNat % 16) :: rest) :=
      hthird (by omega) _
    _ = run? ⟨.text (.char c :: pieces), found⟩ rest := by
      rw [hfourth (Nat.mod_lt _ (by decide)), hpiece]

/-- Each of the three ways to write a character stands for it. -/
theorem run?_escapeChar (found : List Token) (pieces : List Piece) (c : Char) (rest : List Char) :
    run? ⟨.text pieces, found⟩ (escapeChar c ++ rest) =
      run? ⟨.text (.char c :: pieces), found⟩ rest := by
  unfold escapeChar
  split
  · rfl
  · rfl
  · rfl
  · rfl
  · rfl
  · rfl
  · rfl
  · split
    · next hcontrol =>
      exact run?_code found pieces c rest hcontrol
    · next hquote hslash _ _ _ _ _ hplain =>
      have hstep : stepText found pieces (some c) = some ⟨.text (.char c :: pieces), found⟩ := by
        rw [stepText, if_neg hplain] <;> simp_all
      rw [List.singleton_append, run?_cons]
      exact congrArg (·.bind fun s => run? s rest) hstep

theorem run?_chars (found : List Token) (pieces : List Piece) (s rest : List Char) :
    run? ⟨.text pieces, found⟩ (s.flatMap escapeChar ++ rest) =
      run? ⟨.text ((s.map .char).reverse ++ pieces), found⟩ rest := by
  induction s generalizing pieces with
  | nil => rfl
  | cons c s ih =>
    rw [List.flatMap_cons, List.append_assoc, run?_escapeChar, ih, List.map_cons, List.reverse_cons,
      List.append_assoc, List.singleton_append]

theorem joinPieces?_chars (s : List Char) : joinPieces? (s.map .char) = some s := by
  induction s with
  | nil => rfl
  | cons c s ih => rw [List.map_cons, joinPieces?, ih, Option.map_some]

/-- A written string is one token, whose value is the string. -/
theorem tokensBehind_printString (found : List Token) (s : String) (rest : List Char) :
    tokensBehind found (printString s ++ rest) = tokensBehind (.string (some s) :: found) rest := by
  have hopen (text : List Char) :
      tokensBehind found ('"' :: text) = run? ⟨.text [], found⟩ text := rfl
  have hclose (pieces : List Piece) :
      run? ⟨.text pieces, found⟩ ('"' :: rest) =
        tokensBehind (.ofPieces pieces.reverse :: found) rest := rfl
  rw [printString, List.cons_append, List.cons_append, List.append_assoc, hopen, run?_chars,
    List.singleton_append, hclose, List.append_nil, List.reverse_reverse, Token.ofPieces, joinPieces?_chars,
    Option.map_some, String.ofList_toList]

end Scanner

end VehicleRecords.Json
