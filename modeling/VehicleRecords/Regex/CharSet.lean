import VehicleRecords.Unicode.CaseFolding
import VehicleRecords.Unicode.Property
import VehicleRecords.Text.Blank

/-!
Sets of characters as patterns write them.
-/
namespace VehicleRecords.Regex

abbrev CharSet := Char → Bool

namespace CharSet

def empty : CharSet := fun _ => false
def range (first last : Char) : CharSet := fun c => first ≤ c && c ≤ last
def single (x : Char) : CharSet := fun c => c == x
def union (a b : CharSet) : CharSet := fun c => a c || b c
def intersection (a b : CharSet) : CharSet := fun c => a c && b c
def difference (a b : CharSet) : CharSet := fun c => a c && !b c
def symmetricDifference (a b : CharSet) : CharSet := fun c => a c != b c
def negateIf (negated : Bool) (a : CharSet) : CharSet := fun c => a c != negated

/-- The ASCII letter of the other case. -/
def otherCase (c : Char) : Char := if c.isUpper then c.toLower else c.toUpper

/-- Closes a set under change of case, of all characters or of ASCII letters. -/
def foldCase (unicode : Bool) (a : CharSet) : CharSet := fun c =>
  if unicode then (Unicode.caseVariants c).any a else a c || a (otherCase c)

def digit (unicode : Bool) : CharSet := if unicode then Unicode.isDecimalDigit else Char.isDigit
def blank (unicode : Bool) : CharSet :=
  if unicode then Text.isBlank else fun c => c == ' ' || ('\t' ≤ c && c ≤ '\r')

def word (unicode : Bool) : CharSet :=
  if unicode then Unicode.isWord else fun c => c.isAlphanum || c == '_'

/-- The ASCII classes by the names used in brackets. -/
def ascii? (name : String) : Option CharSet :=
  match name with
  | "alnum" => some Char.isAlphanum
  | "alpha" => some Char.isAlpha
  | "ascii" => some fun c => c.toNat < 0x80
  | "blank" => some fun c => c == '\t' || c == ' '
  | "cntrl" => some fun c => c.toNat < 0x20 || c.toNat == 0x7F
  | "digit" => some Char.isDigit
  | "graph" => some (range '!' '~')
  | "lower" => some Char.isLower
  | "print" => some (range ' ' '~')
  | "punct" => some fun c => '!' ≤ c && c ≤ '~' && !c.isAlphanum
  | "space" => some (blank false)
  | "upper" => some Char.isUpper
  | "word" => some (word false)
  | "xdigit" => some fun c => c.isDigit || ('a' ≤ c && c ≤ 'f') || ('A' ≤ c && c ≤ 'F')
  | _ => none

end CharSet

end VehicleRecords.Regex
