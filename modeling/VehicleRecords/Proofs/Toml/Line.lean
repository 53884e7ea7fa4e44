import VehicleRecords.Proofs.Toml.Quoted
import VehicleRecords.Proofs.Toml.Scalar
import VehicleRecords.Toml.Parser

/-!
Lines read back. A line that is written is a setting, whose key needs no quotes, or the head of a table;
written one below the other, lines are read as what they are (`readLines?_print`).
-/
namespace VehicleRecords.Toml

inductive Literal where
  | text (s : String)
  | number (n : Nat)
  deriving DecidableEq, Repr

namespace Literal

def value : Literal → Value
  | text s => .text s
  | number n => .scalar (.integer n)

/-- A text in quotes, its characters spelled by `spell`, or a decimal number. -/
def print (spell : Char → List Char) : Literal → List Char
  | text s => quote spell s.toList
  | number n => Nat.toDigits 10 n

/-- Integers have at most 64 bits, the sign counted. -/
def Fits : Literal → Prop
  | text _ => True
  | number n => n ≤ 9223372036854775807

instance : DecidablePred Fits
  | text _ => inferInstanceAs (Decidable True)
  | number n => inferInstanceAs (Decidable (n ≤ 9223372036854775807))

end Literal

def IsBareKey (key : String) : Prop := key.toList ≠ [] ∧ key.toList.all isKeyChar = true

instance (key : String) : Decidable (IsBareKey key) := inferInstanceAs (Decidable (_ ∧ _))

inductive Row where
  | setting (key : String) (value : Literal)
  | head (name : String)
  deriving DecidableEq, Repr

namespace Row

def line : Row → Line Value
  | setting key v => .pair [] key v.value
  | head name => .table [] name

def print (spell : Char → List Char) : Row → List Char
  | setting key v => key.toList ++ [' ', '=', ' '] ++ v.print spell
  | head name => '[' :: name.toList ++ [']']

def Valid : Row → Prop
  | setting key v => IsBareKey key ∧ v.Fits
  | head name => IsBareKey name

instance : DecidablePred Valid
  | setting key v => inferInstanceAs (Decidable (IsBareKey key ∧ v.Fits))
  | head name => inferInstanceAs (Decidable (IsBareKey name))

end Row

/-! ## Keys and values -/

theorem IsBareKey.first {key : String} (h : IsBareKey key) :
    ∃ c s, key.toList = c :: s ∧ isKeyChar c = true := by
  obtain ⟨hne, hchars⟩ := h
  cases hkey : key.toList with
  | nil => exact absurd hkey hne
  | cons c s => exact ⟨c, s, rfl, List.all_eq_true.1 hchars c (hkey ▸ List.mem_cons_self)⟩

theorem ne_of_isKeyChar {c d : Char} (hc : isKeyChar c = true) (hd : isKeyChar d = false) :
    c ≠ d := by
  rintro rfl
  rw [hc] at hd
  cases hd

theorem isSpace_eq_false {c : Char} (hspace : c ≠ ' ') (htab : c ≠ '\t') : isSpace c = false := by
  rw [isSpace, Bool.or_eq_false_iff, beq_eq_false_iff_ne, beq_eq_false_iff_ne]
  exact ⟨hspace, htab⟩

theorem readSimpleKey?_bare {key : String} (h : IsBareKey key) {rest : List Char}
    (hrest : ∀ c ∈ rest.head?, isKeyChar c = false) :
    readSimpleKey? (key.toList ++ rest) = some (key, rest) := by
  obtain ⟨c, s, hs, hc⟩ := h.first
  have hspan := Text.span_append (List.all_eq_true.1 h.2) hrest
  have hkey : String.ofList (c :: s) = key := by rw [← hs, String.ofList_toList]
  have hquotes : readShort? (key.toList ++ rest) = none := by
    rw [hs, List.cons_append, readShort?]
    · rintro t ⟨⟩
      exact ne_of_isKeyChar hc rfl rfl
    · rintro t ⟨⟩
      exact ne_of_isKeyChar hc rfl rfl
  rw [readSimpleKey?, hquotes, hspan, hs]
  dsimp only
  rw [hkey]

/-- Without a dot behind it a key is the last one. -/
theorem readKeys?_last (count : Nat) {s rest : List Char} {key : String}
    (hkey : readSimpleKey? (s.dropWhile isSpace) = some (key, rest))
    (hdot : ∀ c ∈ (rest.dropWhile isSpace).head?, c ≠ '.') :
    readKeys? (count + 1) s = some ([key], rest.dropWhile isSpace) := by
  simp only [readKeys?, hkey, Option.bind_eq_bind, Option.bind_some]
  split
  · next hdotted =>
    rw [hdotted] at hdot
    exact absurd rfl (hdot '.' rfl)
  · rfl

/-- A key in front of spaces and of what ends it. -/
theorem readPath?_bare {key : String} (h : IsBareKey key) {rest : List Char}
    (hrest : ∀ c ∈ rest.head?, isKeyChar c = false)
    (hdot : ∀ c ∈ (rest.dropWhile isSpace).head?, c ≠ '.') :
    readPath? (key.toList ++ rest) = some ([], key, rest.dropWhile isSpace) := by
  obtain ⟨c, s, hs, hc⟩ := h.first
  have hspaces : (key.toList ++ rest).dropWhile isSpace = key.toList ++ rest := by
    have hspace := isSpace_eq_false (ne_of_isKeyChar hc rfl) (ne_of_isKeyChar hc rfl)
    rw [hs, List.cons_append, List.dropWhile_cons_of_neg (by rw [hspace]; exact Bool.false_ne_true)]
  have hkeys : readKeys? maxDepth (key.toList ++ rest) = some ([key], rest.dropWhile isSpace) := by
    refine readKeys?_last 78 ?_ hdot
    rw [hspaces]
    exact readSimpleKey?_bare h hrest
  rw [readPath?, hkeys]
  rfl

theorem readScalar?_number {n : Nat} (h : n ≤ 9223372036854775807) {rest : List Char}
    (hrest : ∀ c ∈ rest.head?, isWordChar c = false) :
    readScalar? (Nat.toDigits 10 n ++ rest) = some (.integer n, rest) := by
  have hdigits := Text.isDigit_of_mem_toDigits n
  have hword : ∀ c ∈ Nat.toDigits 10 n, isWordChar c = true := by
    intro c hc
    simp only [isWordChar, isKeyChar, Char.isAlphanum, hdigits c hc, Bool.or_true, Bool.true_or]
  have hspan := Text.span_append hword hrest
  have hdate := dropDate?_digits hdigits
  simp only [readScalar?, hspan, hdate, ofWord?_toDigits h, Option.map_some]

/-- A written value ends where the line does. -/
theorem readValue?_print {spell : Char → List Char} (hspell : ∀ c, Spells c (spell c))
    {v : Literal} (hfits : v.Fits) (fuel : Nat) (rest : List Char) :
    readValue? (fuel + 1) 0 (v.print spell ++ '\n' :: rest) = some (v.value, '\n' :: rest) := by
  cases v with
  | text s =>
    have hread : readString? (quote spell s.toList ++ '\n' :: rest) = some (s.toList, '\n' :: rest) :=
      readString?_quote hspell s.toList (by rintro c ⟨⟩; decide)
    rw [Literal.print, readValue?, hread]
    · dsimp only
      rw [String.ofList_toList, Literal.value]
    · rintro t ⟨⟩
    · rintro t ⟨⟩
  | number n =>
    have hread : readScalar? (Nat.toDigits 10 n ++ '\n' :: rest) =
        some (.integer n, '\n' :: rest) := readScalar?_number hfits (by rintro c ⟨⟩; rfl)
    obtain ⟨d, s, hs, hd⟩ := Text.first_toDigits n
    -- A digit begins neither a string nor an array nor a table.
    have hquotes : readString? (Nat.toDigits 10 n ++ '\n' :: rest) = none := by
      rw [hs, List.cons_append, readString?, readShort?]
      all_goals
        intro t heq
        cases (List.cons.inj heq).1
        cases hd
    rw [Literal.print, readValue?, hquotes, hread]
    · rfl
    · rw [hs]
      rintro t ⟨⟩
      cases hd
    · rw [hs]
      rintro t ⟨⟩
      cases hd

theorem Literal.first (spell : Char → List Char) (v : Literal) :
    ∃ c s, v.print spell = c :: s ∧ isSpace c = false := by
  cases v with
  | text s => exact ⟨'"', _, rfl, rfl⟩
  | number n =>
    obtain ⟨d, s, hs, hd⟩ := Text.first_toDigits n
    refine ⟨d, s, hs, isSpace_eq_false ?_ ?_⟩
    · rintro rfl
      cases hd
    · rintro rfl
      cases hd

/-! ## Lines -/

theorem readLine?_pair {s rest : List Char} {path : List String} {key : String}
    (hs : ∀ t, s ≠ '[' :: t) (hpath : readPath? s = some (path, key, '=' :: rest)) :
    readLine? s = (readValue? (2 * rest.length + 2) 0 (rest.dropWhile isSpace)).map
      fun (v, s) => (.pair path key v, s) := by
  rw [readLine?, hpath]
  · rfl
  · exact fun t => hs ('[' :: t)
  · exact hs

theorem readLine?_table {s rest : List Char} {path : List String} {key : String}
    (hs : ∀ t, s ≠ '[' :: t) (hpath : readPath? s = some (path, key, ']' :: rest)) :
    readLine? ('[' :: s) = some (.table path key, rest) := by
  rw [readLine?, hpath]
  · rfl
  · exact hs

namespace Row

variable {spell : Char → List Char}

/-- A line begins with its key or with a bracket. -/
theorem first (spell : Char → List Char) {row : Row} (h : row.Valid) :
    ∃ c s, row.print spell = c :: s ∧ (isKeyChar c = true ∨ c = '[') := by
  cases row with
  | setting key v =>
    obtain ⟨c, s, hs, hc⟩ := h.1.first
    rw [print, hs]
    exact ⟨c, _, rfl, .inl hc⟩
  | head name => exact ⟨'[', _, rfl, .inr rfl⟩

/-- A line is told by its first character: a bracket begins the head of a table. -/
theorem readLine?_print (hspell : ∀ c, Spells c (spell c)) {row : Row} (h : row.Valid)
    (rest : List Char) :
    readLine? (row.print spell ++ '\n' :: rest) = some (row.line, '\n' :: rest) := by
  -- A key begins no header, and the key of a header begins no second bracket.
  have hbracket {key : String} (hkey : IsBareKey key) (rest t : List Char) :
      key.toList ++ rest ≠ '[' :: t := by
    obtain ⟨c, s, hs, hc⟩ := hkey.first
    rw [hs]
    intro heq
    exact ne_of_isKeyChar hc rfl (List.cons.inj heq).1
  cases row with
  | setting key v =>
    obtain ⟨hkey, hfits⟩ := h
    obtain ⟨c, s, hs, hc⟩ := v.first spell
    have hpath : readPath? (key.toList ++ ' ' :: '=' :: ' ' :: (v.print spell ++ '\n' :: rest)) =
        some ([], key, '=' :: ' ' :: (v.print spell ++ '\n' :: rest)) :=
      readPath?_bare hkey (by rintro d ⟨⟩; rfl) (by rintro d ⟨⟩; decide)
    have hspace : (' ' :: (v.print spell ++ '\n' :: rest)).dropWhile isSpace =
        v.print spell ++ '\n' :: rest := by
      rw [List.dropWhile_cons_of_pos rfl, hs, List.cons_append,
        List.dropWhile_cons_of_neg (by rw [hc]; exact Bool.false_ne_true)]
    have htext : (setting key v).print spell ++ '\n' :: rest =
        key.toList ++ ' ' :: '=' :: ' ' :: (v.print spell ++ '\n' :: rest) := by
      simp only [print, List.append_assoc, List.cons_append, List.nil_append]
    rw [htext, readLine?_pair (hbracket hkey _) hpath, hspace, readValue?_print hspell hfits,
      Option.map_some, line]
  | head name =>
    have hpath : readPath? (name.toList ++ ']' :: '\n' :: rest) =
        some ([], name, ']' :: '\n' :: rest) :=
      readPath?_bare h (by rintro d ⟨⟩; rfl) (by rintro d ⟨⟩; decide)
    have htext : (head name).print spell ++ '\n' :: rest =
        '[' :: (name.toList ++ ']' :: '\n' :: rest) := by
      simp only [print, List.append_assoc, List.cons_append, List.nil_append]
    rw [htext, readLine?_table (hbracket h _) hpath, line]

/-- What begins like a line is not the end of one. -/
theorem endLine?_print (spell : Char → List Char) {row : Row} (h : row.Valid) (rest : List Char) :
    (row.print spell ++ rest).dropWhile isSpace = row.print spell ++ rest ∧
      endLine? (row.print spell ++ rest) = none := by
  obtain ⟨c, s, hs, hc⟩ := row.first spell h
  have hother {d : Char} (hkey : isKeyChar d = false) (hd : d ≠ '[') : c ≠ d := by
    rcases hc with hc | rfl
    · exact ne_of_isKeyChar hc hkey
    · exact hd.symm
  have hspace : isSpace c = false :=
    isSpace_eq_false (hother rfl (by decide)) (hother rfl (by decide))
  have hdrop : (c :: (s ++ rest)).dropWhile isSpace = c :: (s ++ rest) :=
    List.dropWhile_cons_of_neg (by rw [hspace]; exact Bool.false_ne_true)
  rw [hs, List.cons_append]
  refine ⟨hdrop, ?_⟩
  have hcomment : c ≠ '#' := hother rfl (by decide)
  have hbreak : dropBreak? (c :: (s ++ rest)) = none := by
    rw [dropBreak?]
    · rintro t ⟨⟩
      exact hother rfl (by decide) rfl
    · intro t heq
      exact hother rfl (by decide) (List.cons.inj heq).1
  unfold endLine?
  rw [hdrop]
  dsimp only
  split
  · next hnil =>
    split at hnil
    · next heq => exact absurd (List.cons.inj heq).1 hcomment
    · cases hnil
  · split
    · next heq => exact absurd (List.cons.inj heq).1 hcomment
    · exact hbreak

end Row

def printRows (spell : Char → List Char) (rows : List Row) : List Char :=
  rows.flatMap fun row => row.print spell ++ ['\n']

theorem printRows_cons (spell : Char → List Char) (row : Row) (rows : List Row) :
    printRows spell (row :: rows) = row.print spell ++ '\n' :: printRows spell rows := by
  rw [printRows, List.flatMap_cons, List.append_assoc]
  rfl

theorem length_le_printRows (spell : Char → List Char) (rows : List Row) :
    rows.length ≤ (printRows spell rows).length := by
  induction rows with
  | nil => exact Nat.le_refl 0
  | cons row rows ih =>
    rw [printRows_cons, List.length_append, List.length_cons, List.length_cons]
    omega

/-- One line is read, and then those below it. -/
theorem readLines?_line (fuel : Nat) {s after rest : List Char} {line : Line Value}
    (hne : s ≠ []) (hspace : s.dropWhile isSpace = s) (hend : endLine? s = none)
    (hline : readLine? s = some (line, after)) (hafter : endLine? after = some rest) :
    readLines? (fuel + 1) s = (readLines? fuel rest).map (line :: ·) := by
  rw [readLines?, hspace]
  split
  · exact absurd rfl hne
  · rw [hend]
    simp only [hline, Option.bind_eq_bind, Option.bind_some, hafter]
    cases readLines? fuel rest <;> rfl

/-- Lines one below the other are read as what they are. -/
theorem readLines?_print {spell : Char → List Char} (hspell : ∀ c, Spells c (spell c))
    {rows : List Row} (h : ∀ row ∈ rows, row.Valid) (fuel : Nat) (hfuel : rows.length < fuel) :
    readLines? fuel (printRows spell rows) = some (rows.map Row.line) := by
  induction rows generalizing fuel with
  | nil =>
    cases fuel with
    | zero => exact absurd hfuel (Nat.lt_irrefl 0)
    | succ fuel => rfl
  | cons row rows ih =>
    rw [List.forall_mem_cons] at h
    cases fuel with
    | zero => exact absurd hfuel (Nat.not_lt_zero _)
    | succ fuel =>
      obtain ⟨hspace, hend⟩ := Row.endLine?_print spell h.1 ('\n' :: printRows spell rows)
      have hline := Row.readLine?_print hspell h.1 (printRows spell rows)
      rw [printRows_cons, readLines?_line fuel (by simp) hspace hend hline rfl,
        ih h.2 fuel (Nat.lt_of_succ_lt_succ hfuel)]
      rfl

end VehicleRecords.Toml
