import VehicleRecords.Url.Parser

/-!
Which server and database to connect to, and as whom. All of it is part of one URL, whose escapes stay
as they are written.
-/
namespace VehicleRecords.Postgres

structure Login where
  host : String
  port : Option UInt16 := none
  user : Option String := none
  password : Option String := none
  database : String
  deriving DecidableEq, Repr

namespace Login

/-- The schemes of a database URL. -/
def isScheme (scheme : String) : Bool := scheme == "postgresql" || scheme == "postgres"

/-- A problem with a URL, which is shown behind it. -/
def problem (message : String) (u : Url) : Error := .adhoc (message ++ "; url=" ++ u.text)

/-- The path of a URL without the slashes in front of it. -/
def databaseOf (u : Url) : String := String.ofList (u.path.toList.dropWhile (· == '/'))

def ofUrl (u : Url) : Except Error Login := do
  if !isScheme u.scheme then throw (problem "connection URL does not have a `postgresql` scheme" u)
  match u.authority with
  | some { user, password, host := some host, port } =>
    let database := databaseOf u
    if database.isEmpty then
      throw (problem "no database specified - missing path in connection URL" u)
    return { host := host.text, port, user := if user.isEmpty then none else some user, password,
             database }
  | _ => throw (problem "missing host in connection URL" u)

/-- Reads the text of a URL. -/
def parse (s : String) : Except Error Login := do ofUrl (← Url.ofText s)

end Login

end VehicleRecords.Postgres
