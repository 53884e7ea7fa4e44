import VehicleRecords.Url.Escape

/-!
Paths of URLs. Segments of one dot vanish; segments of two dots take the segment in front of them
away.
-/
namespace VehicleRecords.Url

/-- The schemes differ in what separates segments and in drive letters. -/
inductive SchemeKind where
  | file
  /-- The other schemes that web browsers know. -/
  | special
  | other
  deriving DecidableEq, Repr

namespace SchemeKind

def ofScheme : String → SchemeKind
  | "file" => file
  | "http" | "https" | "ws" | "wss" | "ftp" => special
  | _ => other

/-- A slash, and a backslash where web browsers take it for one. -/
def isSlash (kind : SchemeKind) (c : Char) : Bool := c == '/' || (c == '\\' && kind != .other)

end SchemeKind

namespace Path

/-- Shows escaped dots as dots. -/
def undot : List Char → List Char
  | '%' :: '2' :: 'e' :: s | '%' :: '2' :: 'E' :: s => '.' :: undot s
  | c :: s => c :: undot s
  | [] => []

def isDot (segment : List Char) : Bool := undot segment == ['.']

def isDoubleDot (segment : List Char) : Bool := undot segment == ['.', '.']

/-- A letter and a colon or bar. -/
def isDriveLetter : List Char → Bool
  | [c, ':'] | [c, '|'] => c.isAlpha
  | _ => false

/-- Takes the latest segment away, unless it is a drive letter. -/
def shorten : List (List Char) → List (List Char)
  | segment :: before => if isDriveLetter segment then segment :: before else before
  | [] => []

/-- The segments between slashes. -/
def pieces (kind : SchemeKind) : List Char → List (List Char)
  | [] => [[]]
  | c :: rest =>
    if kind.isSlash c then [] :: pieces kind rest
    else
      match pieces kind rest with
      | [] => [[c]]
      | piece :: pieces => (c :: piece) :: pieces

/-- Adds a segment. A drive letter at the front of a file path gets a colon. -/
def add (kind : SchemeKind) (before : List (List Char)) (segment : List Char) :
    List (List Char) :=
  match kind, before, segment with
  | .file, [], [c, _] => (if isDriveLetter segment then [c, ':'] else segment) :: before
  | _, _, _ => segment :: before

/-- Resolves dots; `before` holds the segments so far, the latest first. -/
def resolve (kind : SchemeKind) (before : List (List Char)) : List (List Char) → List (List Char)
  | [] => before
  | [last] =>
    if isDoubleDot last then [] :: shorten before
    else if isDot last then [] :: before
    else add kind before last
  | segment :: rest =>
    if isDoubleDot segment then resolve kind (shorten before) rest
    else if isDot segment then resolve kind before rest
    else resolve kind (add kind before segment) rest

/-- The segments of a text behind its first slash. File paths have no empty segments in front. -/
def segments (kind : SchemeKind) (s : List Char) : List (List Char) :=
  let all := (resolve kind [] ((pieces kind s).map (escape keepsPath))).reverse
  if kind = .file then all.dropWhile List.isEmpty else all

/-- The text of segments. -/
def text (segments : List (List Char)) : List Char :=
  '/' :: ['/'].intercalate segments

end Path

end VehicleRecords.Url
