import VehicleRecords.Regex.CharSet

/-!
Regular expressions over characters, with assertions about the place between two characters.
Matching follows sets of places: an expression takes the places where it may begin to the places
where it may end.
-/
namespace VehicleRecords

namespace Regex

/-- Conditions on the place between two characters. -/
inductive Assertion where
  | textStart
  | textEnd
  | lineStart
  | lineEnd
  /-- Like `lineStart`, with carriage returns ending lines too. -/
  | anyLineStart
  | anyLineEnd
  | wordBoundary
  | notWordBoundary
  | wordStart
  | wordEnd
  | wordStartHalf
  | wordEndHalf
  deriving DecidableEq, Repr

/-- Whether an assertion holds between two characters, each absent at an end of the text. -/
def Assertion.holds (isWord : Char → Bool) (before after : Option Char) : Assertion → Bool
  | textStart => before.isNone
  | textEnd => after.isNone
  | lineStart => before.all (· == '\n')
  | lineEnd => after.all (· == '\n')
  | anyLineStart => before.all fun c => c == '\n' || (c == '\r' && after != some '\n')
  | anyLineEnd => after.all fun c => c == '\r' || (c == '\n' && before != some '\r')
  | wordBoundary => before.any isWord != after.any isWord
  | notWordBoundary => before.any isWord == after.any isWord
  | wordStart => !before.any isWord && after.any isWord
  | wordEnd => before.any isWord && !after.any isWord
  | wordStartHalf => !before.any isWord
  | wordEndHalf => !after.any isWord

end Regex

inductive Regex where
  | empty
  /-- One character of a set, which takes `weight` states of an automaton. -/
  | one (set : Char → Bool) (weight : Nat)
  /-- An assertion; words are made of Unicode or of ASCII letters. -/
  | assert (unicode : Bool) (a : Regex.Assertion)
  | seq (first second : Regex)
  | alt (first second : Regex)
  | group (inner : Regex)
  /-- At least `least` and, if there is a bound, at most `most` times. -/
  | rep (inner : Regex) (least : Nat) (most : Option Nat)

namespace Regex

/-- A set of places of a text, one bit for each. -/
abbrev Places := Nat

/-- The places below `count` that satisfy `p`. -/
def Places.filter (count : Nat) (p : Nat → Bool) : Places :=
  (List.range count).foldr (fun i t => 2 * t + (p i).toNat) 0

/-- `f` applied `n` times. What `f` leaves alone is left alone by all further rounds. -/
def iterate (f : Places → Places) : Nat → Places → Places
  | 0, s => s
  | n + 1, s =>
    let t := f s
    if t = s then s else iterate f n t

/-- What is reached by applying `f` at most `n` times. -/
def reach (f : Places → Places) : Nat → Places → Places
  | 0, s => s
  | n + 1, s =>
    let t := s ||| f s
    if t = s then s else reach f n t

/-- What an expression does to the places of one text. -/
inductive Moves where
  | stay
  /-- From the places of a set, each moved on by `step`. -/
  | pass (places : Places) (step : Nat)
  | seq (first second : Moves)
  | alt (first second : Moves)
  | rep (inner : Moves) (least : Nat) (most : Option Nat)

/-- The places where the moves may end when they begin at one of `s`, in a text with `count` places.
A repetition stands still after as many rounds, so no more rounds are made. -/
def Moves.ends (count : Nat) : Moves → Places → Places
  | stay, s => s
  | pass places step, s => (s &&& places) <<< step
  | seq first second, s => ends count second (ends count first s)
  | alt first second, s => ends count first s ||| ends count second s
  | rep inner least most, s =>
    let s := iterate (ends count inner) (min least count) s
    match most with
    | none => reach (ends count inner) count s
    | some most => reach (ends count inner) (min (most - least) count) s

/-- The moves of an expression in a text. -/
def moves (text : Array Char) : Regex → Moves
  | empty => .stay
  | one set _ => .pass (.filter text.size fun i => text[i]?.any set) 1
  | assert unicode a =>
    let holds (i : Nat) := a.holds (CharSet.word unicode)
      (if i = 0 then none else text[i - 1]?) text[i]?
    .pass (.filter (text.size + 1) holds) 0
  | seq first second => .seq (moves text first) (moves text second)
  | alt first second => .alt (moves text first) (moves text second)
  | group inner => moves text inner
  | rep inner least most => .rep (moves text inner) least most

/-- Some part of the text matches. -/
def isMatch (r : Regex) (text : String) : Bool :=
  let chars := text.toList.toArray
  let count := chars.size + 1
  (moves chars r).ends count (Nat.pow 2 count - 1) != 0

/-- The number of states of an automaton for the expression. -/
def weight : Regex → Nat
  | empty => 1
  | one _ w => w
  | assert _ _ => 1
  | seq first second => weight first + weight second
  | alt first second => weight first + weight second + 1
  | group inner => weight inner + 2
  | rep inner least most =>
    match most with
    | none => weight inner * max least 1 + 2
    | some most => weight inner * least + (weight inner + 1) * (most - least) + 1

end Regex

end VehicleRecords
