import VehicleRecords.Regex.Brackets

/-!
Patterns read into expressions. Reading goes from left to right with a stack of open groups; the
flags in force are part of the state, because a group may change them for what follows in it.
-/
namespace VehicleRecords.Regex

/-- One item of a sequence: an expression with the depth of its nesting, or a change of flags. -/
structure Item where
  regex : Regex
  depth : Nat := 0
  isFlags : Bool := false

/-- What is read of a group: its finished alternatives and the sequence at hand, latest first. -/
structure Branches where
  done : List Item := []
  items : List Item := []

/-- One expression for the items of a sequence, given latest first. -/
def Item.sequence : List Item → Item
  | [] => ⟨.empty, 0, false⟩
  | [item] => item
  | last :: before =>
    before.foldl
      (fun acc item => ⟨.seq item.regex acc.regex, max acc.depth (item.depth + 1), false⟩)
      ⟨last.regex, last.depth + 1, false⟩

def Branches.finish (b : Branches) : Item :=
  let last := Item.sequence b.items
  match b.done with
  | [] => last
  | done =>
    done.foldl
      (fun acc item => ⟨.alt item.regex acc.regex, max acc.depth (item.depth + 1), false⟩)
      ⟨last.regex, last.depth + 1, false⟩

/-- A group that is still open: what precedes it, and the flags to return to. -/
structure OpenGroup where
  before : Branches
  flags : Flags
  captures : Bool

structure PatternState where
  flags : Flags := {}
  branches : Branches := {}
  groups : List OpenGroup := []
  names : List (List Char) := []

namespace PatternState

def push (st : PatternState) (item : Item) : PatternState :=
  { st with branches := { st.branches with items := item :: st.branches.items } }

end PatternState

/-- Reads flags up to `)` or `:`; `seen` holds the letters so far, `negation` whether a minus sign
came, and `dangling` whether it came last. -/
def parseFlags (set : Flags) (seen : List Char) (negation dangling : Bool) :
    List Char → Parsed (Flags × Bool × Char)
  | [] => .error .endOfPattern
  | c :: rest =>
    if c = ')' || c = ':' then
      if dangling then .error .badFlag
      else .ok ((set, seen.isEmpty && !negation, c), rest)
    else if c = '-' then
      if negation then .error .badFlag else parseFlags set seen true true rest
    else if seen.contains c then .error .badFlag
    else
      let on := !negation
      match c with
      | 'i' => parseFlags { set with ignoreCase := on } (c :: seen) negation false rest
      | 'm' => parseFlags { set with multiLine := on } (c :: seen) negation false rest
      | 's' => parseFlags { set with dotAll := on } (c :: seen) negation false rest
      | 'U' => parseFlags set (c :: seen) negation false rest
      | 'u' => parseFlags { set with unicode := on } (c :: seen) negation false rest
      | 'R' => parseFlags { set with anyLine := on } (c :: seen) negation false rest
      | 'x' => parseFlags { set with extended := on } (c :: seen) negation false rest
      | _ => .error .badFlag

/-- A letter or underscore, and behind it also digits, dots and brackets. -/
def isGroupName : List Char → Bool
  | [] => false
  | c :: rest =>
    (c == '_' || Unicode.isAlphabetic c) &&
      rest.all fun c => c == '_' || c == '.' || c == '[' || c == ']' || Unicode.isAlphanumeric c

def openGroup (st : PatternState) (inner : Flags) (captures : Bool) : PatternState :=
  { st with
    flags := inner
    branches := {}
    groups := ⟨st.branches, st.flags, captures⟩ :: st.groups }

/-- A group with a name, which no other group may have. -/
def openNamedGroup (st : PatternState) (s : List Char) : Parsed PatternState :=
  match s.span (· ≠ '>') with
  | (_, []) => .error .badGroupName
  | (name, _ :: rest) =>
    if !isGroupName name then .error .badGroupName
    else if st.names.contains name then .error .duplicateGroupName
    else .ok (openGroup { st with names := name :: st.names } st.flags true, rest)

/-- What follows an opening parenthesis. -/
def parseGroup (st : PatternState) (s : List Char) : Parsed PatternState :=
  match st.flags.skip s with
  | '?' :: '=' :: _ | '?' :: '!' :: _ | '?' :: '<' :: '=' :: _ | '?' :: '<' :: '!' :: _ =>
    .error .lookAround
  | '?' :: 'P' :: '<' :: rest | '?' :: '<' :: rest => openNamedGroup st rest
  | '?' :: rest =>
    match parseFlags st.flags [] false false rest with
    | .error e => .error e
    | .ok ((flags, bare, stop), rest) =>
      if stop = ':' then .ok (openGroup st flags false, rest)
      else if bare then .error .nothingToRepeat
      else .ok (({ st with flags }).push ⟨.empty, 0, true⟩, rest)
  | s => .ok (openGroup st st.flags true, s)

/-- A closing parenthesis. -/
def closeGroup (st : PatternState) : Except PatternError PatternState :=
  match st.groups with
  | [] => .error .unopenedGroup
  | g :: groups =>
    let inner := st.branches.finish
    let regex := if g.captures then .group inner.regex else inner.regex
    .ok (({ st with flags := g.flags, branches := g.before, groups }).push
      ⟨regex, inner.depth + 1, false⟩)

/-- Repeats the last item. -/
def repeatLast (st : PatternState) (least : Nat) (most : Option Nat) :
    Except PatternError PatternState :=
  match st.branches.items with
  | [] => .error .nothingToRepeat
  | item :: items =>
    if item.isFlags then .error .nothingToRepeat
    else
      let item : Item := ⟨.rep item.regex least most, item.depth + 1, false⟩
      .ok { st with branches := { st.branches with items := item :: items } }

/-- The question mark that makes a repetition lazy changes no match. -/
def dropLazy : List Char → List Char
  | '?' :: rest => rest
  | s => s

/-- A decimal number with blanks around it. -/
def parseCount (f : Flags) (s : List Char) : Parsed (Option Nat) :=
  let (digits, rest) := takeDigits (s.dropWhile Text.isBlank)
  let rest := rest.dropWhile Text.isBlank
  if digits.isEmpty then .ok (none, rest)
  else
    let n := value digits
    if n < UInt32.size then .ok (some n, rest) else .error .badCount
where
  takeDigits : List Char → List Char × List Char
    | [] => ([], [])
    | c :: rest =>
      if c.isDigit || (f.extended && Text.isBlank c) then
        let (digits, rest) := takeDigits rest
        (if c.isDigit then c :: digits else digits, rest)
      else ([], c :: rest)
  value (digits : List Char) : Nat :=
    digits.foldl (fun n c => 10 * n + (c.toNat - '0'.toNat)) 0

/-- The bounds in braces, behind the opening one. -/
def parseBounds (f : Flags) (s : List Char) : Parsed (Nat × Option Nat) :=
  match f.skip s with
  | [] => .error .unclosedCount
  | s =>
    match parseCount f s with
    | .error e => .error e
    | .ok (_, []) => .error .unclosedCount
    | .ok (none, _) => .error .badCount
    | .ok (some least, ',' :: rest) =>
      match f.skip rest with
      | [] => .error .unclosedCount
      | '\x7d' :: rest => .ok ((least, none), rest)
      | rest =>
        match parseCount f rest with
        | .error e => .error e
        | .ok (none, _) => .error .badCount
        | .ok (some most, '\x7d' :: rest) =>
          if least ≤ most then .ok ((least, some most), rest) else .error .badCount
        | .ok _ => .error .unclosedCount
    | .ok (some n, '\x7d' :: rest) => .ok ((n, some n), rest)
    | .ok _ => .error .unclosedCount

/-- Reads one operator or atom. -/
def parseStep (st : PatternState) : List Char → Parsed PatternState
  | [] => .ok (st, [])
  | '(' :: rest => parseGroup st rest
  | ')' :: rest => (closeGroup st).map (·, rest)
  | '|' :: rest =>
    let item := Item.sequence st.branches.items
    .ok ({ st with branches := ⟨item :: st.branches.done, []⟩ }, rest)
  | '[' :: rest =>
    (parseClass st.flags rest).map fun (part, rest) =>
      (st.push ⟨.one part.set part.weight, part.depth, false⟩, rest)
  | '?' :: rest => (repeatLast st 0 (some 1)).map (·, dropLazy rest)
  | '*' :: rest => (repeatLast st 0 none).map (·, dropLazy rest)
  | '+' :: rest => (repeatLast st 1 none).map (·, dropLazy rest)
  | '\x7b' :: rest =>
    match repeatLast st 0 none with
    | .error e => .error e
    | .ok _ =>
      match parseBounds st.flags rest with
      | .error e => .error e
      | .ok ((least, most), rest) =>
        (repeatLast st least most).map (·, dropLazy (st.flags.skip rest))
  | '\\' :: rest =>
    match parseEscape st.flags rest with
    | .error e => .error e
    | .ok (p, rest) => atom st p rest
  | '.' :: rest => atom st .dot rest
  | '^' :: rest => atom st (.assertion (lineAssertion st.flags .textStart .lineStart .anyLineStart)) rest
  | '$' :: rest => atom st (.assertion (lineAssertion st.flags .textEnd .lineEnd .anyLineEnd)) rest
  | c :: rest => atom st (.literal c) rest
where
  atom (st : PatternState) (p : Primitive) (rest : List Char) : Parsed PatternState :=
    (p.toRegex st.flags).map fun regex => (st.push ⟨regex, 0, false⟩, rest)
  lineAssertion (f : Flags) (text line anyLine : Assertion) : Assertion :=
    if !f.multiLine then text else if f.anyLine then anyLine else line

/-- Reads the whole pattern. Every round consumes a character. -/
def parseLoop : Nat → PatternState → List Char → Except PatternError PatternState
  | 0, st, _ => .ok st
  | fuel + 1, st, s =>
    match st.flags.skip s with
    | [] => .ok st
    | s =>
      match parseStep st s with
      | .error e => .error e
      | .ok (st, rest) => parseLoop fuel st rest

/-- The deepest nesting a pattern may have. -/
def nestLimit : Nat := 250

/-- The expression of a pattern. -/
def parse (pattern : String) : Except PatternError Regex := do
  let st ← parseLoop (pattern.length + 1) {} pattern.toList
  if !st.groups.isEmpty then .error .unclosedGroup
  else
    let item := st.branches.finish
    if item.depth > nestLimit then .error .nestedTooDeep
    else if 32 * item.regex.weight > sizeLimit then .error .tooLarge
    else return item.regex

end VehicleRecords.Regex
