import VehicleRecords.Url.Parser

/-!
URIs as clients send them. The text of a URL is taken apart once more, by stricter rules than those it
was written by; a fragment is not sent.
-/
namespace VehicleRecords

/-- The parts of a URI that has an authority, as they are written. -/
structure Uri where
  scheme : String
  authority : String
  path : String
  query : Option String := none
  deriving DecidableEq, Repr

namespace Uri

/-- Why a text cannot be sent. -/
inductive Problem where
  | tooLong
  | invalidCharacter
  | invalidAuthority
  | invalidFormat
  deriving DecidableEq, Repr

def Problem.message : Problem → String
  | tooLong => "uri too long"
  | invalidCharacter => "invalid uri character"
  | invalidAuthority => "invalid authority"
  | invalidFormat => "invalid format"

/-- The most bytes that a URI may have. -/
def maxLength : Nat := 65534

/-- What has been read of an authority. The colons and escapes of the user information and of a
bracketed host do not count any more. -/
structure Reading where
  colons : Nat := 0
  opened : Bool := false
  closed : Bool := false
  escaped : Bool := false
  /-- The latest character ends the user information. -/
  hostless : Bool := false

/-- Reads one more character of an authority. -/
def Reading.step (k : Reading) (c : Char) : Except Problem Reading :=
  let k := { k with hostless := false }
  match c with
  | ':' => if 8 ≤ k.colons then .error .invalidAuthority else .ok { k with colons := k.colons + 1 }
  | '[' => if k.escaped || k.opened then .error .invalidAuthority else .ok { k with opened := true }
  | ']' =>
    if !k.opened || k.closed then .error .invalidAuthority
    else .ok { k with closed := true, colons := 0, escaped := false }
  | '@' => .ok { k with colons := 0, escaped := false, hostless := true }
  | '%' => .ok { k with escaped := true }
  | c => if c.isAlphanum || "!$&'()*+,-.;=_~".contains c then .ok k else .error .invalidCharacter

/-- An authority has a host, which has no escapes and at most a port behind it. -/
def checkAuthority (authority : List Char) : Except Problem Unit := do
  let k ← authority.foldlM Reading.step {}
  if k.opened != k.closed || 1 < k.colons || k.hostless || k.escaped then throw .invalidAuthority
  if authority.isEmpty then throw .invalidFormat

def isPathChar (c : Char) : Bool := Url.isPrintable c && !" #<>?`".contains c

/-- The text in front of the first slash, question mark or number sign, and what follows it. -/
def cutAuthority (s : List Char) : List Char × List Char := s.span fun c => !"/?#".contains c

/-- Reads the text of a URL. -/
def ofText (s : String) : Except Problem Uri := do
  if maxLength < s.utf8ByteSize then throw .tooLong
  let some (scheme, '/' :: '/' :: rest) := Url.cutScheme? s.toList | throw .invalidFormat
  let (authority, rest) := cutAuthority rest
  checkAuthority authority
  let (path, query, _) := Url.cutQuery rest
  if !(path.all isPathChar && (query.getD []).all Url.keepsQuery) then throw .invalidCharacter
  return {
    scheme
    authority := String.ofList authority
    path := if path.isEmpty then "/" else String.ofList path
    query := query.map String.ofList }

end Uri

end VehicleRecords
