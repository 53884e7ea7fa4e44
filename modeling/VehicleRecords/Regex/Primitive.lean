import VehicleRecords.Regex.Basic
import VehicleRecords.Regex.PatternError
import VehicleRecords.Text.Digit

/-!
The atoms of patterns: literal characters, escapes and predefined classes, under the flags in force.
-/
namespace VehicleRecords.Regex

/-- What a pattern may switch on and off. -/
structure Flags where
  ignoreCase : Bool := false
  multiLine : Bool := false
  dotAll : Bool := false
  unicode : Bool := true
  anyLine : Bool := false
  /-- Blanks and comments in the pattern mean nothing. -/
  extended : Bool := false

/-- Drops blanks, and comments from `#` to the end of a line. -/
def dropBlanks (comment : Bool) : List Char → List Char
  | [] => []
  | c :: rest =>
    if comment then dropBlanks (c ≠ '\n') rest
    else if Text.isBlank c then dropBlanks false rest
    else if c = '#' then dropBlanks true rest
    else c :: rest

namespace Flags

/-- The rest of the pattern, behind what means nothing. -/
def skip (f : Flags) (s : List Char) : List Char :=
  if f.extended then dropBlanks false s else s

/-- A set that may be used under the flags: without Unicode it holds ASCII only. -/
def restrict (f : Flags) (set : CharSet) : Except PatternError CharSet :=
  if f.unicode || !(List.range 128).any (fun i => set (Char.ofNat (128 + i))) then .ok set
  else .error .notUnicode

/-- Closes a set under change of case if the flags ask for it, then negates it. -/
def finish (f : Flags) (negated : Bool) (set : CharSet) : Except PatternError CharSet :=
  f.restrict (CharSet.negateIf negated (if f.ignoreCase then set.foldCase f.unicode else set))

end Flags

inductive Primitive where
  | literal (c : Char)
  | set (set : CharSet) (weight : Nat)
  | assertion (a : Assertion)
  | dot

abbrev Parsed (α : Type) := Except PatternError (α × List Char)

def isHex (c : Char) : Bool := (Text.digitValue? 16 c).isSome

/-- The character of a hexadecimal number. A number written with two digits is a byte, which
without Unicode has to be ASCII. -/
def hexChar (f : Flags) (byte : Bool) (digits : List Char) : Except PatternError Char :=
  match (Text.natural? 16 digits).filter (·.isValidChar) with
  | none => .error .badHex
  | some n =>
    if byte && !f.unicode && n ≥ 0x80 && n < 0x100 then .error .notUnicode
    else .ok (Char.ofNat n)

/-- `count` more hexadecimal digits. -/
def hexDigits (f : Flags) : Nat → List Char → Parsed (List Char)
  | 0, s => .ok ([], s)
  | n + 1, s =>
    match f.skip s with
    | [] => .error .endOfPattern
    | c :: rest =>
      if isHex c then (hexDigits f n rest).map fun (digits, s) => (c :: digits, s)
      else .error .badHex

/-- The blanks of an extended pattern dropped everywhere. -/
def Flags.dense (f : Flags) (s : List Char) : List Char :=
  if f.extended then s.filter (!Text.isBlank ·) else s

def parseHex (f : Flags) (count : Nat) (s : List Char) : Parsed Primitive :=
  match f.skip s with
  | [] => .error .endOfPattern
  | '\x7b' :: rest =>
    match rest.span (· ≠ '\x7d') with
    | (_, []) => .error .badHex
    | (inside, _ :: rest) =>
      let digits := f.dense inside
      if digits.isEmpty || !digits.all isHex then .error .badHex
      else (hexChar f false digits).map fun c => (.literal c, rest)
  | s =>
    match hexDigits f count s with
    | .error e => .error e
    | .ok (digits, rest) => (hexChar f (count == 2) digits).map fun c => (.literal c, rest)

/-- The set named inside `\p`, by one name or by a property and a value. -/
def namedSet (name : List Char) : Except PatternError CharSet :=
  let found :=
    match cutAt name with
    | some (property, value) => Unicode.valueSet? property value
    | none => Unicode.namedSet? name
  match found with
  | some set => .ok set
  | none => .error .unknownProperty
where
  /-- Cuts at `!=`, else at a colon, else at an equals sign. -/
  cutAt (name : List Char) : Option (List Char × List Char) :=
    (cutUnequal name).orElse fun _ =>
      match name.span (· ≠ ':'), name.span (· ≠ '=') with
      | (before, _ :: after), _ => some (before, after)
      | _, (before, _ :: after) => some (before, after)
      | _, _ => none
  cutUnequal : List Char → Option (List Char × List Char)
    | '!' :: '=' :: rest => some ([], rest)
    | c :: rest => (cutUnequal rest).map fun (before, after) => (c :: before, after)
    | [] => none

/-- A property class, behind `\p` or `\P`. -/
def parseProperty (f : Flags) (negated : Bool) (s : List Char) :
    Except PatternError (Primitive × List Char) := do
  let (name, rest) ←
    match f.skip s with
    | [] => .error .endOfPattern
    | '\x7b' :: rest =>
      match rest.span (· ≠ '\x7d') with
      | (_, []) => .error .endOfPattern
      | (inside, _ :: rest) => .ok (f.dense inside, rest)
    | '\\' :: _ => .error .unknownProperty
    | c :: rest => .ok ([c], rest)
  if !f.unicode then .error .notUnicode
  else
    let set ← namedSet name
    let set ← f.finish negated set
    return (.set set 400, rest)

def isMeta (c : Char) : Bool :=
  ['\\', '.', '+', '*', '?', '(', ')', '|', '[', ']', '\x7b', '\x7d', '^', '$', '#', '&', '-',
    '~'].contains c

/-- A character other than a letter, a digit and the angle brackets stands for itself. -/
def isEscapable (c : Char) : Bool :=
  isMeta c || (c.toNat < 0x80 && !c.isAlphanum && c ≠ '<' && c ≠ '>')

/-- A special word boundary in braces. Braces with other contents are left alone. -/
def parseBoundary (f : Flags) (s : List Char) : Parsed Assertion :=
  match s with
  | '\x7b' :: inside =>
    match f.skip inside with
    | [] => .error .endOfPattern
    | c :: more =>
      if !isNameChar c then .ok (.wordBoundary, s)
      else
        let (name, rest) := (f.dense (c :: more)).span isNameChar
        match rest with
        | '\x7d' :: _ =>
          let after := ((c :: more).dropWhile (· ≠ '\x7d')).drop 1
          match String.ofList name with
          | "start" => .ok (.wordStart, after)
          | "end" => .ok (.wordEnd, after)
          | "start-half" => .ok (.wordStartHalf, after)
          | "end-half" => .ok (.wordEndHalf, after)
          | _ => .error .badWordBoundary
        | _ => .error .unclosedWordBoundary
  | s => .ok (.wordBoundary, s)
where
  isNameChar (c : Char) : Bool := c.isAlpha || c == '-'

/-- What follows a backslash. -/
def parseEscape (f : Flags) : List Char → Parsed Primitive
  | [] => .error .endOfPattern
  | c :: rest =>
    if c.isDigit then .error .backReference
    else
      match c with
      | 'x' => parseHex f 2 rest
      | 'u' => parseHex f 4 rest
      | 'U' => parseHex f 8 rest
      | 'p' => parseProperty f false rest
      | 'P' => parseProperty f true rest
      | 'd' => .ok (.set (CharSet.digit f.unicode) 80, rest)
      | 's' => .ok (.set (CharSet.blank f.unicode) 12, rest)
      | 'w' => .ok (.set (CharSet.word f.unicode) 900, rest)
      | 'D' => (f.restrict (CharSet.negateIf true (CharSet.digit f.unicode))).map
          fun set => (.set set 80, rest)
      | 'S' => (f.restrict (CharSet.negateIf true (CharSet.blank f.unicode))).map
          fun set => (.set set 12, rest)
      | 'W' => (f.restrict (CharSet.negateIf true (CharSet.word f.unicode))).map
          fun set => (.set set 900, rest)
      | 'a' => .ok (.literal '\x07', rest)
      | 'f' => .ok (.literal '\x0c', rest)
      | 't' => .ok (.literal '\t', rest)
      | 'n' => .ok (.literal '\n', rest)
      | 'r' => .ok (.literal '\r', rest)
      | 'v' => .ok (.literal '\x0b', rest)
      | 'A' => .ok (.assertion .textStart, rest)
      | 'z' => .ok (.assertion .textEnd, rest)
      | 'b' => (parseBoundary f rest).map fun (a, rest) => (.assertion a, rest)
      | 'B' => .ok (.assertion .notWordBoundary, rest)
      | '<' => .ok (.assertion .wordStart, rest)
      | '>' => .ok (.assertion .wordEnd, rest)
      | c => if isEscapable c then .ok (.literal c, rest) else .error .badEscape

/-- The expression of an atom outside brackets. -/
def Primitive.toRegex (f : Flags) : Primitive → Except PatternError Regex
  | literal c =>
    if f.ignoreCase then .ok (.one ((CharSet.single c).foldCase f.unicode) c.utf8Size)
    else .ok (.one (CharSet.single c) c.utf8Size)
  | set s weight => .ok (.one s weight)
  | assertion a => .ok (.assert f.unicode a)
  | dot =>
    if !f.unicode then .error .notUnicode
    else if f.dotAll then .ok (.one (fun _ => true) 12)
    else if f.anyLine then .ok (.one (fun c => c ≠ '\n' && c ≠ '\r') 12)
    else .ok (.one (· ≠ '\n') 12)

end VehicleRecords.Regex
