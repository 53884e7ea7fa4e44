import VehicleRecords.Url.Host

/-!
URLs by their parts. The parts are held as they are written, with their escapes.
-/
namespace VehicleRecords

/-- Who asks whom. -/
structure Url.Authority where
  user : String := ""
  password : Option String := none
  /-- The host, unless it is left empty. -/
  host : Option Url.Host := none
  /-- The port, unless it is the default port of the scheme. -/
  port : Option UInt16 := none
  deriving DecidableEq, Repr

structure Url where
  scheme : String
  authority : Option Url.Authority := none
  path : String := ""
  query : Option String := none
  fragment : Option String := none
  deriving DecidableEq, Repr

namespace Url

/-- A part behind its mark, when it is there. -/
def marked (mark : String) : Option String → String
  | none => ""
  | some part => mark ++ part

def Authority.text (a : Authority) : String :=
  let userInfo := a.user ++ marked ":" a.password
  (if userInfo.isEmpty then "" else userInfo ++ "@") ++ ((a.host.map Host.text).getD "") ++
    marked ":" (a.port.map fun port => toString port.toNat)

/-- The text of a URL. Without an authority, a path with two slashes in front is set off by a dot. -/
def text (u : Url) : String :=
  let place := match u.authority with
    | some a => "//" ++ a.text
    | none => if "//".isPrefixOf u.path then "/." else ""
  u.scheme ++ ":" ++ place ++ u.path ++ marked "?" u.query ++ marked "#" u.fragment

end Url

end VehicleRecords
