import VehicleRecords.Error
import VehicleRecords.Text.Split
import VehicleRecords.Url.Basic
import VehicleRecords.Url.Path

/-!
Reading URLs. Each part ends at the first character that begins another one.
-/
namespace VehicleRecords.Url

open Text (cutOnce)

/-- A scheme in lower case and what follows its colon. -/
def cutScheme? (s : List Char) : Option (String × List Char) :=
  match cutOnce ':' s with
  | (c :: scheme, some rest) =>
    if c.isAlpha && scheme.all fun c => c.isAlphanum || "+-.".contains c then
      some (String.ofList ((c :: scheme).map Char.toLower), rest)
    else none
  | _ => none

/-- The parts of a text in front of the query, in the query and in the fragment. -/
def cutQuery (s : List Char) : List Char × Option (List Char) × Option (List Char) :=
  let (s, fragment) := cutOnce '#' s
  let (s, query) := cutOnce '?' s
  (s, query, fragment)

/-- The port that a scheme has by itself. -/
def defaultPort? : String → Option Nat
  | "http" | "ws" => some 80
  | "https" | "wss" => some 443
  | "ftp" => some 21
  | _ => none

/-- Reads a port and leaves the rest, which begins with a slash of some kind. -/
def parsePort (default? : Option Nat) (s : List Char) : Except Problem (Option UInt16 × List Char) :=
  let (port, rest) := s.span fun c => c != '/' && c != '\\'
  if port.isEmpty then .ok (none, rest)
  else
    match Text.natural? 10 port with
    | none => .error .invalidPort
    | some n =>
      if 65535 < n then .error .invalidPort
      else .ok (if default? = some n then none else some (.ofNat n), rest)

/-- The host and what follows it: a port, a path, or nothing. Colons between brackets are part of the
host. -/
def cutHost (kind : SchemeKind) (inBrackets : Bool) : List Char → List Char × List Char
  | [] => ([], [])
  | c :: rest =>
    if kind.isSlash c || (c == ':' && !inBrackets) then ([], c :: rest)
    else
      let (host, rest) := cutHost kind (if c == '[' then true else inBrackets && c != ']') rest
      (c :: host, rest)

/-- The last `@` of a text ends its user information. -/
def cutUserInfo (s : List Char) : Option (List Char) × List Char :=
  match s.reverse.span (· ≠ '@') with
  | (_, []) => (none, s)
  | (host, _ :: userInfo) => (some userInfo.reverse, host.reverse)

/-- The user and the password. An empty password is none. -/
def parseUserInfo (s : List Char) : String × Option String :=
  let (user, password) := cutOnce ':' s
  (String.ofList (escape keepsUserInfo user),
    (password.filter (!·.isEmpty)).map fun p => String.ofList (escape keepsUserInfo p))

/-- Reads what stands between the two slashes and the path, `isWhole` when the URL has no query and no
fragment. -/
def parseAuthority (scheme : String) (kind : SchemeKind) (isWhole : Bool) (s : List Char) :
    Except Problem (Authority × List Char) := do
  let (before, path) := s.span fun c => !kind.isSlash c
  let (userInfo, rest) := cutUserInfo before
  if userInfo = some [] && rest.isEmpty && !(path.isEmpty && isWhole) then throw .emptyHost
  let (user, password) := parseUserInfo (userInfo.getD [])
  let (host, rest) := cutHost kind false (rest ++ path)
  if host.isEmpty then
    if kind = .special || rest.head? = some ':' || !user.isEmpty || password.isSome then
      throw .emptyHost
    return ({}, rest)
  let host ← if kind = .other then Host.parseOpaque host else Host.parseSpecial host
  match rest with
  | ':' :: rest =>
    let (port, rest) ← parsePort (defaultPort? scheme) rest
    return ({ user, password, host, port }, rest)
  | rest => return ({ user, password, host }, rest)

/-- The segments of a path whose first slash may be missing. -/
def parsePath (kind : SchemeKind) : List Char → List (List Char)
  | '/' :: s => Path.segments kind s
  | '\\' :: s => Path.segments kind (if kind = .other then '\\' :: s else s)
  | s => Path.segments kind s

/-- Reads what follows the scheme of a file. A drive letter needs no host. -/
def parseFile (s : List Char) : Except Problem (Authority × List (List Char)) := do
  let isSlash := SchemeKind.file.isSlash
  match s with
  | a :: b :: s =>
    if isSlash a && isSlash b then
      let (host, path) := s.span fun c => !isSlash c
      if host.isEmpty || Path.isDriveLetter host then return ({}, parsePath .file s)
      let host ← Host.parseSpecial host
      let segments := parsePath .file path
      if host = .name "localhost" || segments.head?.any Path.isDriveLetter then
        return ({}, segments)
      return ({ host }, segments)
    return ({}, parsePath .file (a :: b :: s))
  | s => return ({}, parsePath .file s)

/-- Reads what follows the scheme, up to the query. -/
def parsePlace (scheme : String) (isWhole : Bool) (s : List Char) :
    Except Problem (Option Authority × List Char) := do
  let kind := SchemeKind.ofScheme scheme
  match kind with
  | .file =>
    let (authority, segments) ← parseFile s
    return (authority, Path.text segments)
  | .special =>
    let (authority, rest) ← parseAuthority scheme kind isWhole (s.dropWhile kind.isSlash)
    return (authority, Path.text (parsePath kind rest))
  | .other =>
    match s with
    | '/' :: '/' :: s =>
      let (authority, rest) ← parseAuthority scheme kind isWhole s
      return (authority, if rest.isEmpty then [] else Path.text (parsePath kind rest))
    | '/' :: s => return (none, Path.text (Path.segments kind s))
    | s => return (none, escape keepsOpaque s)

/-- A text without blanks and control characters at its ends and without line breaks and tabs. -/
def strip (s : List Char) : List Char :=
  let s := s.dropWhile (· ≤ ' ')
  let s := (s.reverse.dropWhile (· ≤ ' ')).reverse
  s.filter fun c => !"\t\n\r".contains c

def parse (s : String) : Except Problem Url := do
  let (s, query, fragment) := cutQuery (strip s.toList)
  let some (scheme, s) := cutScheme? s | throw .relative
  let (authority, path) ← parsePlace scheme (query.isNone && fragment.isNone) s
  let keeps := if SchemeKind.ofScheme scheme = .other then keepsQuery else keepsSpecialQuery
  return {
    scheme
    authority
    path := String.ofList path
    query := query.map fun q => String.ofList (escape keeps q)
    fragment := fragment.map fun f => String.ofList (escape keepsFragment f) }

/-- Reads a URL for a driver that needs one. -/
def ofText (s : String) : Except Error Url :=
  (parse s).mapError fun problem => .driver ⟨problem.message, []⟩

end VehicleRecords.Url
