import VehicleRecords.Json.Number
import VehicleRecords.Text.Digit
import VehicleRecords.Text.Utf8

/-!
The tokens of a JSON text, found by a scan from left to right. A string with bytes or escapes that
are no character is still a token, without a value: it may stand where a value is skipped.
-/
namespace VehicleRecords.Json

inductive Token where
  | openArray
  | closeArray
  | openObject
  | closeObject
  | comma
  | colon
  | null
  | bool (b : Bool)
  | number (n : Number)
  | string (s : Option String)
  deriving DecidableEq, Repr

def isSpace (c : Char) : Bool := c == ' ' || c == '\n' || c == '\r' || c == '\t'

/-- The escapes of a single letter and their characters. -/
def escapes : List (Char × Char) :=
  [('"', '"'), ('\\', '\\'), ('/', '/'), ('b', '\x08'), ('f', '\x0c'), ('n', '\n'), ('r', '\r'),
    ('t', '\t')]

/-- A part of a string: a character, the code of a surrogate, or bytes that are no character. -/
inductive Piece where
  | char (c : Char)
  | surrogate (code : Nat)
  | fault
  deriving DecidableEq, Repr

def Piece.ofCode (code : Nat) : Piece :=
  if 0xD800 ≤ code ∧ code ≤ 0xDFFF then .surrogate code else .char (Char.ofNat code)

/-- The text of pieces without faults, in which every surrogate stands in a pair. -/
def joinPieces? : List Piece → Option (List Char)
  | [] => some []
  | .char c :: rest => (joinPieces? rest).map (c :: ·)
  | .surrogate high :: .surrogate low :: rest =>
    if high < 0xDC00 ∧ 0xDC00 ≤ low then
      (joinPieces? rest).map (Char.ofNat (0x10000 + (high - 0xD800) * 1024 + (low - 0xDC00)) :: ·)
    else none
  | _ => none

namespace Token

/-- The token of a single character. -/
def ofMark? : Char → Option Token
  | '[' => some openArray
  | ']' => some closeArray
  | '{' => some openObject
  | '}' => some closeObject
  | ',' => some comma
  | ':' => some colon
  | _ => none

/-- The token that a run of other characters is. -/
def ofWord? (word : List Char) : Option Token :=
  if word = ['n', 'u', 'l', 'l'] then some null
  else if word = ['t', 'r', 'u', 'e'] then some (bool true)
  else if word = ['f', 'a', 'l', 's', 'e'] then some (bool false)
  else (Number.ofText? word).map number

def ofPieces (pieces : List Piece) : Token := string ((joinPieces? pieces).map String.ofList)

end Token

/-- Where a scan stands. What has been read of the current token has its latest part first. -/
inductive Scan where
  | between
  | word (letters : List Char)
  | text (pieces : List Piece)
  /-- Behind a backslash. -/
  | escape (pieces : List Piece)
  /-- Inside an escape of four hexadecimal digits. -/
  | code (pieces : List Piece) (digits : List Nat)
  deriving DecidableEq, Repr

/-- A scan and the tokens it has passed, the latest first. -/
structure Scanner where
  scan : Scan := .between
  found : List Token := []

namespace Scanner

/-- One character between tokens. -/
def start (found : List Token) (c : Char) : Scanner :=
  if isSpace c then ⟨.between, found⟩
  else if c = '"' then ⟨.text [], found⟩
  else
    match Token.ofMark? c with
    | some t => ⟨.between, t :: found⟩
    | none => ⟨.word [c], found⟩

/-- The character ends a word. -/
def isDelimiter (c : Char) : Bool := isSpace c || c == '"' || (Token.ofMark? c).isSome

def stepText (found : List Token) (pieces : List Piece) : Option Char → Option Scanner
  | none => some ⟨.text (.fault :: pieces), found⟩
  | some '"' => some ⟨.between, .ofPieces pieces.reverse :: found⟩
  | some '\\' => some ⟨.escape pieces, found⟩
  | some c => if c < ' ' then none else some ⟨.text (.char c :: pieces), found⟩

def stepEscape (found : List Token) (pieces : List Piece) (c : Char) : Option Scanner :=
  if c = 'u' then some ⟨.code pieces [], found⟩
  else (escapes.lookup c).map fun c => ⟨.text (.char c :: pieces), found⟩

def stepCode (found : List Token) (pieces : List Piece) (digits : List Nat) (c : Char) :
    Option Scanner :=
  (Text.digitValue? 16 c).map fun d =>
    match digits with
    | [z, y, x] => ⟨.text (.ofCode (((x * 16 + y) * 16 + z) * 16 + d) :: pieces), found⟩
    | digits => ⟨.code pieces (d :: digits), found⟩

/-- Reads one symbol; `none` stands for bytes that are no character. -/
def step (s : Scanner) (symbol : Option Char) : Option Scanner :=
  match s.scan, symbol with
  | .text pieces, symbol => stepText s.found pieces symbol
  | .between, some c => some (start s.found c)
  | .word letters, some c =>
    if isDelimiter c then
      (Token.ofWord? letters.reverse).map fun t => start (t :: s.found) c
    else some ⟨.word (c :: letters), s.found⟩
  | .escape pieces, some c => stepEscape s.found pieces c
  | .code pieces digits, some c => stepCode s.found pieces digits c
  | _, none => none

/-- The tokens of a text that ends here. -/
def finish? (s : Scanner) : Option (List Token) :=
  match s.scan with
  | .between => some s.found.reverse
  | .word letters => (Token.ofWord? letters.reverse).map fun t => (t :: s.found).reverse
  | _ => none

end Scanner

/-- The tokens of a text, `none` when some part of it is no token. -/
def tokens? (bytes : Bytes) : Option (List Token) :=
  ((Text.Utf8.read bytes).foldlM Scanner.step {}).bind Scanner.finish?

end VehicleRecords.Json
