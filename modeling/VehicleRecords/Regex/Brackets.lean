import VehicleRecords.Regex.Primitive

/-!
Bracketed classes: characters, ranges, named classes, nested brackets, and the operators `&&`, `--`
and `~~`, which bind alike and to the left.
-/
namespace VehicleRecords.Regex

inductive SetOperator where
  | intersection
  | difference
  | symmetricDifference

def SetOperator.apply : SetOperator → CharSet → CharSet → CharSet
  | intersection => CharSet.intersection
  | difference => CharSet.difference
  | symmetricDifference => CharSet.symmetricDifference

/-- A set operator at the head of a text. -/
def setOperator? : List Char → Option (SetOperator × List Char)
  | '&' :: '&' :: rest => some (.intersection, rest)
  | '-' :: '-' :: rest => some (.difference, rest)
  | '~' :: '~' :: rest => some (.symmetricDifference, rest)
  | _ => none

/-- A class with the depth of its nesting and its weight. -/
structure ClassPart where
  set : CharSet := CharSet.empty
  depth : Nat := 0
  weight : Nat := 0

/-- The union of the parts read since the last bracket or operator. -/
structure ClassUnion where
  part : ClassPart := {}
  count : Nat := 0

namespace ClassUnion

def push (u : ClassUnion) (p : ClassPart) : ClassUnion :=
  ⟨⟨u.part.set.union p.set, max u.part.depth p.depth, u.part.weight + p.weight⟩, u.count + 1⟩

/-- A union of two or more parts is one level deeper than its parts. -/
def toPart (u : ClassUnion) : ClassPart :=
  if u.count ≤ 1 then u.part else { u.part with depth := u.part.depth + 1 }

end ClassUnion

/-- What waits for the end of a class: an enclosing bracket, or the left side of an operator. -/
inductive ClassFrame where
  | bracket (outer : ClassUnion) (negated : Bool)
  | operator (op : SetOperator) (left : ClassPart)

/-- Applies the operator that waits for its right side, if there is one. -/
def closeOperator (f : Flags) (right : ClassPart) :
    List ClassFrame → ClassPart × List ClassFrame
  | .operator op left :: rest =>
    let fold (s : CharSet) : CharSet := if f.ignoreCase then s.foldCase f.unicode else s
    (⟨op.apply (fold left.set) (fold right.set), max left.depth right.depth + 1,
      left.weight + right.weight⟩, rest)
  | frames => (right, frames)

/-- Leading dashes stand for themselves. -/
def dashes (f : Flags) : Nat → ClassUnion → List Char → Except PatternError (ClassUnion × List Char)
  | 0, _, _ => .error .unclosedClass
  | n + 1, u, s =>
    match f.skip s with
    | [] => .error .unclosedClass
    | '-' :: rest => dashes f n (u.push ⟨CharSet.single '-', 0, 1⟩) rest
    | s => .ok (u, s)

/-- Opens a bracket: a caret negates, and leading dashes or one leading `]` stand for themselves. -/
def openBracket (f : Flags) (s : List Char) :
    Except PatternError (Bool × ClassUnion × List Char) :=
  let (negated, s) :=
    match f.skip s with
    | '^' :: rest => (true, rest)
    | s => (false, s)
  match dashes f (s.length + 1) {} s with
  | .error e => .error e
  | .ok (u, ']' :: rest) =>
    if u.count = 0 then
      match f.skip rest with
      | [] => .error .unclosedClass
      | rest => .ok (negated, u.push ⟨CharSet.single ']', 0, 1⟩, rest)
    else .ok (negated, u, ']' :: rest)
  | .ok (u, s) => .ok (negated, u, s)

/-- An ASCII class such as `[:alpha:]`, behind its bracket. -/
def asciiClass? (s : List Char) : Option (Bool × CharSet × List Char) :=
  match s with
  | ':' :: rest =>
    let (negated, rest) :=
      match rest with
      | '^' :: rest => (true, rest)
      | rest => (false, rest)
    match rest.span (· ≠ ':') with
    | (name, ':' :: ']' :: rest) =>
      (CharSet.ascii? (String.ofList name)).map fun set => (negated, set, rest)
    | _ => none
  | _ => none

/-- One atom inside brackets. -/
def classAtom (f : Flags) : List Char → Parsed Primitive
  | [] => .error .unclosedClass
  | '\\' :: rest => parseEscape f rest
  | c :: rest => .ok (.literal c, rest)

/-- A literal inside brackets; without Unicode only ASCII is admitted. -/
def classLiteral (f : Flags) : Primitive → Except PatternError Char
  | .literal c => if f.unicode || c.toNat < 0x80 then .ok c else .error .notUnicode
  | _ => .error .badClassItem

def classPart (f : Flags) : Primitive → Except PatternError ClassPart
  | .set set weight => .ok ⟨set, 0, weight⟩
  | p => (classLiteral f p).map fun c => ⟨CharSet.single c, 0, c.utf8Size⟩

/-- One atom or a range of characters. A dash before `]` or before another dash ends no range. -/
def classItem (f : Flags) (s : List Char) : Except PatternError (ClassPart × List Char) := do
  let (first, rest) ← classAtom f s
  match f.skip rest with
  | [] => .error .unclosedClass
  | '-' :: after =>
    match f.skip after with
    | ']' :: _ | '-' :: _ => return (← classPart f first, '-' :: after)
    | [] => .error .unclosedClass
    | after =>
      let (last, rest) ← classAtom f after
      let lo ← classLiteral f first
      let hi ← classLiteral f last
      if lo ≤ hi then return (⟨CharSet.range lo hi, 0, hi.utf8Size⟩, rest)
      else .error .badRange
  | rest => return (← classPart f first, rest)

/-- Reads on inside brackets until the outermost one closes. Every round consumes a character. -/
def classLoop (f : Flags) :
    Nat → List ClassFrame → ClassUnion → List Char → Parsed ClassPart
  | 0, _, _, _ => .error .unclosedClass
  | fuel + 1, frames, u, s =>
    match f.skip s with
    | [] => .error .unclosedClass
    | '[' :: rest =>
      match asciiClass? rest with
      | some (negated, set, rest) =>
        match f.finish negated set with
        | .error e => .error e
        | .ok set => classLoop f fuel frames (u.push ⟨set, 0, 1⟩) rest
      | none =>
        match openBracket f rest with
        | .error e => .error e
        | .ok (negated, inner, rest) => classLoop f fuel (.bracket u negated :: frames) inner rest
    | ']' :: rest =>
      let (part, frames) := closeOperator f u.toPart frames
      match frames with
      | .bracket outer negated :: frames =>
        match f.finish negated part.set with
        | .error e => .error e
        | .ok set =>
          let part : ClassPart := ⟨set, part.depth + 1, part.weight⟩
          if frames.isEmpty then .ok (part, rest)
          else classLoop f fuel frames (outer.push part) rest
      | _ => .error .unclosedClass
    | s =>
      match setOperator? s with
      | some (op, rest) =>
        let (left, frames) := closeOperator f u.toPart frames
        classLoop f fuel (.operator op left :: frames) {} rest
      | none =>
        match classItem f s with
        | .error e => .error e
        | .ok (part, rest) => classLoop f fuel frames (u.push part) rest

/-- A bracketed class, behind its opening bracket. -/
def parseClass (f : Flags) (s : List Char) : Parsed ClassPart :=
  match openBracket f s with
  | .error e => .error e
  | .ok (negated, u, rest) => classLoop f (s.length + 1) [.bracket {} negated] u rest

end VehicleRecords.Regex
