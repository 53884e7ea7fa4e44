import VehicleRecords.Backend

/-!
A bounded pool of connections. Idle connections are used before new ones are opened, the one that
has been idle longest first.
-/
namespace VehicleRecords

/-- A way to open connections of type `κ` to a store in state `σ`. -/
structure Connector (σ κ : Type) where
  connect : StoreM σ κ
  /-- The most connections the store allows at a time. -/
  maxConnections : Option Nat := none

/-- Connections in the order in which they became idle, and the number of those handed out. -/
structure Pool (κ : Type) where
  maxSize : Nat
  idle : List κ := []
  held : Nat := 0
  /-- How many milliseconds a caller waits for a slot; without a limit it waits until one is free. -/
  waitTimeout : Option Nat := none

/-- A caller is answered whatever the others do: a slot is free, or its waiting comes to an end. -/
def Pool.Answers (pool : Pool κ) : Prop := pool.held < pool.maxSize ∨ pool.waitTimeout.isSome

instance (pool : Pool κ) : Decidable pool.Answers :=
  inferInstanceAs (Decidable (_ ∨ _))

/-- A pool in which no caller waits for another one. -/
abbrev AnsweringPool (κ : Type) := { pool : Pool κ // pool.Answers }

def AnsweringPool.setIdle (pool : AnsweringPool κ) (idle : List κ) : AnsweringPool κ :=
  ⟨{ pool.1 with idle }, pool.2⟩

/-- A store whose connections have no state of their own. -/
def Backend.stateless (b : Backend σ) : Backend (κ × σ) where
  grammar := b.grammar
  exec op := onStore (b.exec op)
  pushSchema := onStore b.pushSchema
  reset := onStore b.reset
where
  onStore {α : Type} (run : StoreM σ α) : StoreM (κ × σ) α := fun (k, s) =>
    let (result, s) := run s
    (result, (k, s))

namespace Pool

variable {σ κ : Type}

/-- Every slot is taken, and the time to wait for one is over. -/
def timedOut : Error :=
  .connectionPool ⟨"Timeout occurred while waiting for a slot to become available", []⟩

/-- A connection could not be opened. -/
def creationFailed (e : Error) : Error :=
  .connectionPool
    ⟨"Error occurred while creating a new object: " ++ e.message, e.message :: e.sources⟩

/-- A connection for a free slot: an idle one, or a new one when none is idle. -/
def take (c : Connector σ κ) (idle : List κ) (s : σ) : Except Error κ × List κ × σ :=
  match idle with
  | k :: idle => (.ok k, idle, s)
  | [] =>
    match c.connect s with
    | (.ok k, s) => (.ok k, [], s)
    | (.error e, s) => (.error (creationFailed e), [], s)

/-- Hands out a connection. There is no answer as long as the caller waits for one to be given back. -/
def get? (c : Connector σ κ) (pool : Pool κ) (s : σ) : Option (Except Error κ × Pool κ × σ) :=
  if pool.held < pool.maxSize then
    match take c pool.idle s with
    | (.ok k, idle, s) => some (.ok k, { pool with idle, held := pool.held + 1 }, s)
    | (.error e, idle, s) => some (.error e, { pool with idle }, s)
  else pool.waitTimeout.map fun _ => (.error timedOut, pool, s)

/-- Takes a connection back. -/
def release (pool : Pool κ) (k : κ) : Pool κ :=
  { pool with idle := pool.idle ++ [k], held := pool.held - 1 }

/-- A pool of the given size, or of the size the store allows when that is less. One connection is
opened at once, so that a store that cannot be reached is noticed here. Without a slot and a limit to
waiting there is no end to it. -/
def new? (c : Connector σ κ) (maxSize : Nat) (waitTimeout : Option Nat) (s : σ) :
    Option (Except Error (AnsweringPool κ) × σ) :=
  let size := (c.maxConnections.map (min maxSize ·)).getD maxSize
  if h : 0 < size then
    match take c [] s with
    | (.ok k, idle, s) =>
      some (.ok ⟨{ maxSize := size, idle := idle ++ [k], waitTimeout }, .inl h⟩, s)
    | (.error e, _, s) => some (.error e, s)
  else waitTimeout.map fun _ => (.error timedOut, s)

/-- Lends a connection to one computation. -/
def lend (c : Connector σ κ) (run : StoreM (κ × σ) α) : StoreM (AnsweringPool κ × σ) α :=
  fun (pool, s) =>
    if pool.1.held < pool.1.maxSize then
      match take c pool.1.idle s with
      | (.ok k, idle, s) =>
        let (result, (k, s)) := run (k, s)
        (result, (pool.setIdle (idle ++ [k]), s))
      | (.error e, idle, s) => (.error e, (pool.setIdle idle, s))
    else (.error timedOut, (pool, s))

/-- What is lent is got and given back, so that as many connections are handed out as before. -/
theorem lend_eq_get? (c : Connector σ κ) (run : StoreM (κ × σ) α) (pool : AnsweringPool κ) (s : σ) :
    some ((lend c run (pool, s)).1, (lend c run (pool, s)).2.1.1, (lend c run (pool, s)).2.2) =
      match get? c pool.1 s with
      | some (.ok k, lent, s) => some ((run (k, s)).1, lent.release (run (k, s)).2.1, (run (k, s)).2.2)
      | some (.error e, lent, s) => some (.error e, lent, s)
      | none => none := by
  rw [lend, get?]
  by_cases hfree : pool.1.held < pool.1.maxSize
  · rw [if_pos hfree, if_pos hfree]
    rcases take c pool.1.idle s with ⟨e | k, idle, t⟩
    · rfl
    · rfl
  · obtain ⟨limit, hlimit⟩ := Option.isSome_iff_exists.1 (pool.2.resolve_left hfree)
    rw [if_neg hfree, if_neg hfree, hlimit]
    rfl

/-- A store whose operations each run on a connection of the pool. -/
def backend (c : Connector σ κ) (connection : Backend (κ × σ)) : Backend (AnsweringPool κ × σ) where
  grammar := connection.grammar
  exec op := lend c (connection.exec op)
  pushSchema := lend c connection.pushSchema
  reset := lend c connection.reset

end Pool

end VehicleRecords
