import VehicleRecords.Postgres.Connection
import VehicleRecords.Proofs.Store.Exec

namespace VehicleRecords.Postgres

variable {σ α β : Type}

theorem bind_of_ok {run : SessionM σ α} {next : α → SessionM σ β} {start : Session × σ} {a : α}
    {between : Session × σ} (h : run start = (.ok a, between)) :
    (run >>= next) start = next a between := by
  rw [StoreM.bind_apply, h]

theorem compile_apply (stmt : Sql.Statement) (start : Session × σ) :
    compile stmt start = (Sql.compile start.1.table [] stmt, start) := by
  obtain ⟨session, s⟩ := start
  have hget : (get : SessionM σ (Session × σ)) (session, s) = (.ok (session, s), (session, s)) := rfl
  rw [compile, bind_of_ok hget]
  dsimp only
  cases Sql.compile session.table [] stmt <;> rfl

theorem compile_of_ok {stmt : Sql.Statement} {start : Session × σ} {compiled : Sql.Compiled}
    (h : Sql.compile start.1.table [] stmt = .ok compiled) :
    compile stmt start = (.ok compiled, start) := by
  rw [compile_apply, h]

theorem sendWith_of_ok {p : Prepared} {params : List Value} {bytes : List (Option Bytes)}
    (hbytes : encodeParams p 0 params = .ok bytes)
    {run : Prepared → List (Option Bytes) → Exchange σ α} {session : Session} {s t : σ} {a : α}
    (hrun : run p bytes s = (.ok a, t)) :
    sendWith p params run (session, s) = (.ok a, (session, t)) := by
  rw [sendWith, hbytes]
  dsimp only
  rw [send, hrun]
  rfl

/-- The operation's statement is prepared and run, and it finds or changes no row. -/
def ConcernsNoRow (server : Server σ) (op : Operation) (start finish : Session × σ) : Prop :=
  ∃ compiled p prepared bytes,
    Sql.compile start.1.table [] (.run op) = .ok compiled ∧
    prepareKept server compiled.sql start = (.ok p, prepared) ∧
    encodeParams p 0 compiled.params = .ok bytes ∧ finish.1 = prepared.1 ∧
    if (Sql.Statement.run op).returnsRows then server.query p bytes prepared.2 = (.ok [], finish.2)
    else server.execute p bytes prepared.2 = (.ok 0, finish.2)

def Targets (id : Int64) (op : Operation) : Prop :=
  op = .getById id ∨ op = .deleteById id ∨ ∃ patch, op = .updateById id patch

/-- A statement about one record that concerns no row is answered as a record that is not found. -/
theorem exec_of_no_row {server : Server σ} {id : Int64} {op : Operation} (hop : Targets id op)
    {start finish : Session × σ} (h : ConcernsNoRow server op start finish) :
    exec server op start = (.error (.noSuchCar id), finish) := by
  obtain ⟨compiled, p, prepared, bytes, hc, hp, hb, hsession, hrun⟩ := h
  have hstatement : exec server op = runStatement server op := by
    rcases hop with rfl | rfl | ⟨patch, rfl⟩ <;> rfl
  have hfixed : (Sql.Statement.run op).hasFixedShape = true := by
    rcases hop with rfl | rfl | ⟨patch, rfl⟩ <;> rfl
  have hmissing : missing? 0 op = some (.noSuchCar id) := by
    rcases hop with rfl | rfl | ⟨patch, rfl⟩ <;> rfl
  obtain ⟨session, t⟩ := finish
  dsimp only at hsession hrun
  subst hsession
  rw [hstatement, runStatement, bind_of_ok (compile_of_ok hc), if_pos hfixed, bind_of_ok hp]
  split
  · next hrows =>
    rw [if_pos hrows] at hrun
    have hnone : List.mapM (carOfRow p.columns) [] = .ok [] := rfl
    dsimp only
    rw [bind_of_ok (sendWith_of_ok hb hrun), hnone]
    dsimp only [List.length_nil]
    rw [hmissing]
    rfl
  · next hrows =>
    rw [if_neg hrows] at hrun
    dsimp only
    rw [bind_of_ok (sendWith_of_ok hb hrun), hmissing]
    rfl

end VehicleRecords.Postgres
