import VehicleRecords.Text.Digit
import VehicleRecords.Text.Utf8

/-!
Strings of a TOML text. Those in double quotes have escapes, those in single quotes have none; three
quotes open a string that may go over several lines.
-/
namespace VehicleRecords.Toml

/-- A character that may stand in comments and, next to quotes and backslashes, in strings. -/
def isPlain (c : Char) : Bool := c == '\t' || (' ' ≤ c && c != '\x7f')

def isSpace (c : Char) : Bool := c == ' ' || c == '\t'

/-- The character with a code in hexadecimal digits. Surrogates are no characters. -/
def charOfHex? (digits : List Char) : Option Char := do
  let code ← Text.natural? 16 digits
  if code < 0xD800 ∨ (0xE000 ≤ code ∧ code < 0x110000) then some (Char.ofNat code) else none

/-- The characters of the escapes with one letter. -/
def escapes : List (Char × Char) :=
  [('b', '\x08'), ('f', '\x0c'), ('n', '\n'), ('r', '\r'), ('t', '\t'), ('\\', '\\'), ('"', '"')]

/-- How many characters of code an escape has behind its letter. -/
def codeLength? : Char → Option Nat
  | 'u' => some 4
  | 'U' => some 8
  | _ => none

/-- Reads an escape behind its backslash: the character and the length of the escape. -/
def escape? : List Char → Option (Char × Nat)
  | [] => none
  | letter :: rest =>
    match codeLength? letter with
    | some n =>
      if n ≤ rest.length then (charOfHex? (rest.take n)).map (·, n + 1) else none
    | none => (escapes.lookup letter).map (·, 1)

/-- What follows a line break at the start of a text. -/
def dropBreak? : List Char → Option (List Char)
  | '\n' :: rest => some rest
  | '\r' :: '\n' :: rest => some rest
  | _ => none

/-- What follows the spaces and line breaks at the start of a text. -/
def dropSpaces : List Char → List Char
  | ' ' :: rest | '\t' :: rest | '\n' :: rest => dropSpaces rest
  | '\r' :: '\n' :: rest => dropSpaces rest
  | s => s

theorem length_dropSpaces_le (s : List Char) : (dropSpaces s).length ≤ s.length := by
  fun_induction dropSpaces s <;> simp_all <;> omega

/-- Reads a string in double quotes behind the opening one. -/
def readBasic? (s : List Char) : Option (List Char × List Char) :=
  match s with
  | '"' :: rest => some ([], rest)
  | '\\' :: rest =>
    match escape? rest with
    | some (c, n) => (readBasic? (rest.drop n)).map fun (cs, rest) => (c :: cs, rest)
    | none => none
  | c :: rest =>
    if isPlain c then (readBasic? rest).map fun (cs, rest) => (c :: cs, rest) else none
  | [] => none
termination_by s.length
decreasing_by all_goals simp only [List.length_cons, List.length_drop]; omega

/-- Quotes at the end of a string over several lines: of up to five in a row the last three close
it. Answers the others and what follows. -/
def closing? (quote : Char) : List Char → Option (List Char × List Char)
  | a :: b :: c :: rest =>
    if a = quote ∧ b = quote ∧ c = quote then
      match rest with
      | d :: e :: rest' =>
        if d = quote then if e = quote then some ([quote, quote], rest') else some ([quote], e :: rest')
        else some ([], rest)
      | [d] => if d = quote then some ([quote], []) else some ([], rest)
      | [] => some ([], [])
    else none
  | _ => none

/-- A backslash at the end of a line takes the line break away with all spaces that follow. -/
def joined? (s : List Char) : Option (List Char) :=
  (dropBreak? (s.dropWhile isSpace)).map dropSpaces

theorem length_dropBreak?_le {s rest : List Char} (h : dropBreak? s = some rest) :
    rest.length ≤ s.length := by
  unfold dropBreak? at h
  split at h <;> simp_all
  omega

theorem length_joined?_le {s rest : List Char} (h : joined? s = some rest) :
    rest.length ≤ s.length := by
  obtain ⟨t, ht, rfl⟩ := Option.map_eq_some_iff.1 h
  have h1 := length_dropSpaces_le t
  have h2 := length_dropBreak?_le ht
  have h3 := (List.dropWhile_suffix isSpace (l := s)).length_le
  omega

/-- Reads a string in three double quotes behind the opening ones and the line break there. -/
def readLongBasic? (s : List Char) : Option (List Char × List Char) :=
  match closing? '"' s with
  | some found => some found
  | none =>
    match s with
    | '\\' :: rest =>
      match h : joined? rest with
      | some rest' =>
        have := length_joined?_le h
        readLongBasic? rest'
      | none =>
        match escape? rest with
        | some (c, n) => (readLongBasic? (rest.drop n)).map fun (cs, rest) => (c :: cs, rest)
        | none => none
    | '\n' :: rest | '\r' :: '\n' :: rest =>
      (readLongBasic? rest).map fun (cs, rest) => ('\n' :: cs, rest)
    | c :: rest =>
      if isPlain c then (readLongBasic? rest).map fun (cs, rest) => (c :: cs, rest) else none
    | [] => none
termination_by s.length
decreasing_by all_goals simp only [List.length_cons, List.length_drop]; omega

/-- Reads a string in single quotes behind the opening one. -/
def readLiteral? : List Char → Option (List Char × List Char)
  | '\'' :: rest => some ([], rest)
  | c :: rest =>
    if isPlain c then (readLiteral? rest).map fun (cs, rest) => (c :: cs, rest) else none
  | [] => none

/-- Reads a string in three single quotes behind the opening ones and the line break there. -/
def readLongLiteral? (s : List Char) : Option (List Char × List Char) :=
  match closing? '\'' s with
  | some found => some found
  | none =>
    match s with
    | '\n' :: rest | '\r' :: '\n' :: rest =>
      (readLongLiteral? rest).map fun (cs, rest) => ('\n' :: cs, rest)
    | c :: rest =>
      if isPlain c then (readLongLiteral? rest).map fun (cs, rest) => (c :: cs, rest) else none
    | [] => none

/-- Reads a string on one line, as keys may be. -/
def readShort? : List Char → Option (List Char × List Char)
  | '"' :: rest => readBasic? rest
  | '\'' :: rest => readLiteral? rest
  | _ => none

/-- Reads any string. -/
def readString? : List Char → Option (List Char × List Char)
  | '"' :: '"' :: '"' :: rest => readLongBasic? ((dropBreak? rest).getD rest)
  | '\'' :: '\'' :: '\'' :: rest => readLongLiteral? ((dropBreak? rest).getD rest)
  | s => readShort? s

end VehicleRecords.Toml
