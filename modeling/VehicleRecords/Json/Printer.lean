import VehicleRecords.Json.Tree
import VehicleRecords.Text.Quoted

/-!
JSON trees as text, without white space.
-/
namespace VehicleRecords.Json

/-- Quotes, backslashes and control characters are escaped; every other character stands as it is. -/
def escapeChar (c : Char) : List Char :=
  match c with
  | '"' => ['\\', '"']
  | '\\' => ['\\', '\\']
  | '\n' => ['\\', 'n']
  | '\r' => ['\\', 'r']
  | '\t' => ['\\', 't']
  | '\x08' => ['\\', 'b']
  | '\x0c' => ['\\', 'f']
  | c =>
    if c < ' ' then
      ['\\', 'u', '0', '0', Text.hexDigit (c.toNat / 16), Text.hexDigit (c.toNat % 16)]
    else [c]

def printString (s : String) : List Char := '"' :: s.toList.flatMap escapeChar ++ ['"']

/-- A number as it was written, up to leading zeros and a plus sign in its exponent. -/
def printNumber (n : Number) : List Char :=
  (if n.negative then ['-'] else []) ++ Nat.toDigits 10 n.whole ++
  (if n.fraction.isEmpty then [] else '.' :: n.fraction.map Text.hexDigit) ++
  match n.exponent with
  | none => []
  | some e => 'e' :: (toString e).toList

namespace Tree

mutual

/-- The text of a tree. A string without a value is written as an empty one. -/
def print : Tree → List Char
  | .null => ['n', 'u', 'l', 'l']
  | .bool true => ['t', 'r', 'u', 'e']
  | .bool false => ['f', 'a', 'l', 's', 'e']
  | .number n => printNumber n
  | .string s => printString (s.getD "")
  | .array [] => ['[', ']']
  | .array (item :: items) => '[' :: print item ++ printItems items ++ [']']
  | .object [] => ['{', '}']
  | .object ((key, value) :: members) =>
    '{' :: printString (key.getD "") ++ ':' :: print value ++ printMembers members ++ ['}']

/-- Items behind the first one. -/
def printItems : List Tree → List Char
  | [] => []
  | item :: items => ',' :: print item ++ printItems items

/-- Members behind the first one. -/
def printMembers : List (Option String × Tree) → List Char
  | [] => []
  | (key, value) :: members =>
    ',' :: printString (key.getD "") ++ ':' :: print value ++ printMembers members

end

/-- The bytes of a tree's text. -/
def bytes (t : Tree) : Bytes := Text.Utf8.encode t.print

end Tree

end VehicleRecords.Json
