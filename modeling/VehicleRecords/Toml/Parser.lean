import VehicleRecords.Toml.Quoted
import VehicleRecords.Toml.Table

/-!
TOML texts: lines that are headers, key-value pairs or blank.
-/
namespace VehicleRecords.Toml

/-- Most keys in a row, and most arrays and inline tables inside each other. -/
def maxDepth : Nat := 79

def isKeyChar (c : Char) : Bool := c.isAlphanum || c == '_' || c == '-'

/-- A key without dots. -/
def readSimpleKey? (s : List Char) : Option (String × List Char) :=
  match readShort? s with
  | some (key, rest) => some (String.ofList key, rest)
  | none =>
    match s.span isKeyChar with
    | ([], _) => none
    | (key, rest) => some (String.ofList key, rest)

/-- At most so many keys with dots between them. -/
def readKeys? : Nat → List Char → Option (List String × List Char)
  | 0, _ => none
  | count + 1, s => do
    let (key, s) ← readSimpleKey? (s.dropWhile isSpace)
    match s.dropWhile isSpace with
    | '.' :: s =>
      let (keys, s) ← readKeys? count s
      return (key :: keys, s)
    | s => return ([key], s)

/-- A key-value pair, or a header. -/
inductive Line (α : Type) where
  | pair (path : List String) (key : String) (value : α)
  | table (path : List String) (key : String)
  | tableOfArray (path : List String) (key : String)

/-- The keys before the last one, and the last one. -/
def readPath? (s : List Char) : Option (List String × String × List Char) := do
  let (keys, s) ← readKeys? maxDepth s
  let key ← keys.getLast?
  return (keys.dropLast, key, s)

/-- What follows spaces, line breaks and comments. The flag says whether the text starts inside a
comment. -/
def skipBlank : Bool → List Char → List Char
  | _, [] => []
  | _, '\n' :: rest => skipBlank false rest
  | _, '\r' :: '\n' :: rest => skipBlank false rest
  | true, c :: rest => if isPlain c then skipBlank true rest else c :: rest
  | false, c :: rest =>
    if isSpace c then skipBlank false rest
    else if c = '#' then skipBlank true rest
    else c :: rest

def isWordChar (c : Char) : Bool := isKeyChar c || c == '+' || c == '.' || c == ':'

/-- A value without quotes. A date and a time may stand apart. -/
def readScalar? (s : List Char) : Option (Scalar × List Char) :=
  let (word, rest) := s.span isWordChar
  let (word, rest) :=
    match dropDate? word, rest with
    | some [], ' ' :: d :: _ =>
      if d.isDigit then
        let (time, rest) := (rest.drop 1).span isWordChar
        (word ++ ' ' :: time, rest)
      else (word, rest)
    | _, _ => (word, rest)
  (Scalar.ofWord? word).map (·, rest)

/-- The table of the pairs of an inline value. -/
def inlineTable? (pairs : List (List String × String × Value)) : Option Value :=
  let entries? := pairs.foldlM (fun es (path, key, v) => Entries.add? path key v .defined es) []
  entries?.map fun entries => (Node.table .defined entries).toValue

mutual

/-- Reads a value inside `depth` arrays and inline tables. -/
def readValue? : Nat → Nat → List Char → Option (Value × List Char)
  | 0, _, _ => none
  | fuel + 1, depth, s =>
    match s with
    | '[' :: rest => if depth < maxDepth then readItems? fuel (depth + 1) [] rest else none
    | '{' :: rest =>
      if depth < maxDepth then
        match rest.dropWhile isSpace with
        | '}' :: rest => some (.table [], rest)
        | rest => readPairs? fuel (depth + 1) [] rest
      else none
    | s =>
      match readString? s with
      | some (cs, rest) => some (.text (String.ofList cs), rest)
      | none => (readScalar? s).map fun (v, rest) => (.scalar v, rest)

/-- Reads the items of an array behind those in `found`, the latest first. -/
def readItems? : Nat → Nat → List Value → List Char → Option (Value × List Char)
  | 0, _, _, _ => none
  | fuel + 1, depth, found, s =>
    match skipBlank false s with
    | ']' :: rest => some (.array found.reverse, rest)
    | s =>
      match readValue? fuel depth s with
      | none => none
      | some (v, rest) =>
        match skipBlank false rest with
        | ',' :: rest => readItems? fuel depth (v :: found) rest
        | ']' :: rest => some (.array (v :: found).reverse, rest)
        | _ => none

/-- Reads the pairs of an inline table behind those in `found`, the latest first. -/
def readPairs? : Nat → Nat → List (List String × String × Value) → List Char →
    Option (Value × List Char)
  | 0, _, _, _ => none
  | fuel + 1, depth, found, s =>
    match readPath? s with
    | some (path, key, '=' :: rest) =>
      match readValue? fuel depth (rest.dropWhile isSpace) with
      | none => none
      | some (v, rest) =>
        let found := (path, key, v) :: found
        match rest.dropWhile isSpace with
        | ',' :: rest => readPairs? fuel depth found rest
        | '}' :: rest => (inlineTable? found.reverse).map (·, rest)
        | _ => none
    | _ => none

end

/-- The rest behind the end of a line. -/
def endLine? (s : List Char) : Option (List Char) :=
  let s := match s.dropWhile isSpace with
    | '#' :: s => s.dropWhile isPlain
    | s => s
  match s with
  | [] => some []
  | s => dropBreak? s

/-- The rest behind the closing brackets of a header. -/
def closeHeader? : Bool → List Char → Option (List Char)
  | true, ']' :: ']' :: rest => some rest
  | false, ']' :: rest => some rest
  | _, _ => none

/-- Reads a line that is not blank. -/
def readLine? (s : List Char) : Option (Line Value × List Char) :=
  match s with
  | '[' :: '[' :: s => do
    let (path, key, s) ← readPath? s
    return (.tableOfArray path key, ← closeHeader? true s)
  | '[' :: s => do
    let (path, key, s) ← readPath? s
    return (.table path key, ← closeHeader? false s)
  | s =>
    match readPath? s with
    | some (path, key, '=' :: s) =>
      (readValue? (2 * s.length + 2) 0 (s.dropWhile isSpace)).map fun (v, s) => (.pair path key v, s)
    | _ => none

/-- Reads lines up to the end of the text. Each takes at least one character. -/
def readLines? : Nat → List Char → Option (List (Line Value))
  | 0, _ => none
  | fuel + 1, s =>
    match s.dropWhile isSpace with
    | [] => some []
    | s =>
      match endLine? s with
      | some rest => readLines? fuel rest
      | none => do
        let (line, s) ← readLine? s
        let lines ← readLines? fuel (← endLine? s)
        return line :: lines

/-- The tables so far and the path of the current one. -/
structure Section where
  entries : Entries := []
  path : List String := []

/-- Goes on by one line. -/
def Section.step? (s : Section) : Line Value → Option Section
  | .pair path key v =>
    (Entries.change? .implied (Entries.add? path key v) s.path .defined s.entries).map
      fun entries => { s with entries }
  | .table path key =>
    (Entries.change? .implied (fun _ => Entries.define? key) path .defined s.entries).map
      fun entries => ⟨entries, path ++ [key]⟩
  | .tableOfArray path key =>
    (Entries.change? .implied (fun _ => Entries.append? key) path .defined s.entries).map
      fun entries => ⟨entries, path ++ [key]⟩

/-- A byte-order mark at the start of a text does not count. -/
def dropMark : List Char → List Char
  | '\ufeff' :: s => s
  | s => s

/-- The root table of a text. -/
def parse? (text : List Char) : Option Value := do
  let s := dropMark text
  let lines ← readLines? (s.length + 1) s
  let document ← lines.foldlM Section.step? {}
  return (Node.table .defined document.entries).toValue

end VehicleRecords.Toml
