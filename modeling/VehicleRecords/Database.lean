import VehicleRecords.Pool
import VehicleRecords.Postgres.Login

/-!
Databases that a URL names, behind a pool of connections. The scheme of the URL selects the kind of
database.
-/
namespace VehicleRecords

/-- A database that was connected to: how more connections are opened, and those there are. -/
structure Database (σ κ : Type) where
  connector : Connector σ κ
  pool : AnsweringPool κ

namespace Database

variable {σ κ : Type}

/-- Opens connections to the database at `u`; `login` opens one to a PostgreSQL server. -/
def connectorFor (login : Postgres.Login → StoreM σ κ) (u : Url) : Connector σ κ where
  connect :=
    if Postgres.Login.isScheme u.scheme then
      match Postgres.Login.ofUrl u with
      | .ok l => login l
      | .error e => throw e
    else
      throw (.adhoc ("unsupported database; scheme=" ++ u.scheme ++ "; url=" ++ u.text))

/-- Connects to the database at a URL. A text that is no URL is noticed before anything else. -/
def connect? (login : Postgres.Login → StoreM σ κ) (url : String) (maxSize : Nat)
    (waitTimeout : Option Nat) (s : σ) : Option (Except Error (Database σ κ) × σ) :=
  match Url.ofText url with
  | .error e => some (.error e, s)
  | .ok u =>
    let connector := connectorFor login u
    (Pool.new? connector maxSize waitTimeout s).map fun (pool, s) => (pool.map (⟨connector, ·⟩), s)

end Database

end VehicleRecords
