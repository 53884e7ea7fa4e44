import VehicleRecords.Pool

/-!
A store that plays a script: what each connection attempt and each operation comes to is laid down
beforehand.
-/
namespace VehicleRecords.Store

structure Script where
  /-- The failures of the connection attempts to come; `none` is a success, and so is every attempt
  past the end. -/
  connects : List (Option Error) := []
  /-- The answers to the operations to come. -/
  replies : List (Except Error Answer) := []
  /-- The operations executed so far, the latest first. -/
  seen : List Operation := []
  /-- The number of connections opened so far. -/
  opened : Nat := 0

namespace Script

/-- The next connection attempt. -/
def connect : StoreM Script Unit := fun s =>
  match s.connects with
  | some e :: rest => (.error e, { s with connects := rest })
  | none :: rest => (.ok (), { s with connects := rest, opened := s.opened + 1 })
  | [] => (.ok (), { s with opened := s.opened + 1 })

/-- The next reply; a script that has run out of replies counts no rows. -/
def exec (op : Operation) : StoreM Script Answer := fun s =>
  let s := { s with seen := op :: s.seen }
  match s.replies with
  | reply :: rest => (reply, { s with replies := rest })
  | [] => (.ok (.count 0), s)

def connector (maxConnections : Option Nat) : Connector Script Unit := ⟨connect, maxConnections⟩

def backend : Backend Script where
  exec := exec

end Script

end VehicleRecords.Store
