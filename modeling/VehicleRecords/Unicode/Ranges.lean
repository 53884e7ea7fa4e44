/-!
Sets of code points given as ascending ranges, with membership by bisection.
-/
namespace VehicleRecords.Unicode

/-- Ranges of code points, both ends included, ascending and apart. -/
structure Ranges where
  bounds : Array (Nat × Nat)

namespace Ranges

def hexValue (c : Char) : Nat :=
  if c.isDigit then c.toNat - '0'.toNat else c.toUpper.toNat - 'A'.toNat + 10

def hexNumber (s : List Char) : Nat := s.foldl (fun n c => 16 * n + hexValue c) 0

/-- One range, `41-5A` or `41`. -/
def readRange (word : List Char) : Nat × Nat :=
  match word.span (· ≠ '-') with
  | (first, '-' :: last) => (hexNumber first, hexNumber last)
  | (first, _) => (hexNumber first, hexNumber first)

/-- The words of a text between its blanks. -/
def words (s : List Char) : List (List Char) :=
  let (last, done) := s.foldr
    (fun c (word, done) =>
      if c.isWhitespace then ([], if word.isEmpty then done else word :: done)
      else (c :: word, done))
    ([], [])
  if last.isEmpty then done else last :: done

/-- Ranges written in hexadecimal with blanks between them. -/
def ofText (s : String) : Ranges := ⟨((words s.toList).map readRange).toArray⟩

/-- Looks for `n` among the ranges from the `lo`-th up to the `hi`-th, which is left out. -/
def search (r : Ranges) (n lo hi : Nat) : Bool :=
  if lo < hi then
    let mid := (lo + hi) / 2
    match r.bounds[mid]? with
    | none => false
    | some (first, last) =>
      if n < first then search r n lo mid
      else if last < n then search r n (mid + 1) hi
      else true
  else false
termination_by hi - lo

def contains (r : Ranges) (n : Nat) : Bool := r.search n 0 r.bounds.size

end Ranges

end VehicleRecords.Unicode
