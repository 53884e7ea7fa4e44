import Mathlib.Algebra.Ring.Nat
import VehicleRecords.Postgres.Scripted
import VehicleRecords.Proofs.Postgres.Parameter
import VehicleRecords.Proofs.Postgres.Turn
import VehicleRecords.Proofs.Sql.Batches
import VehicleRecords.Proofs.Sql.Text

/-!
An insertion as the server sees it. One transaction holds the statements of all chunks, in order, and
the first failure ends it. A server that keeps its transactions then saves the batch as a whole or not
at all (`insert_in_one_transaction`).
-/
namespace VehicleRecords.Postgres

variable {σ α β : Type}

/-! ## The talk of a transaction -/

/-- A compiled statement that inserts a chunk. Its placeholders are numbered from one on and stand for
the values of the chunk, row by row. -/
structure ChunkStatement (table : String) (chunk : List Car) (c : Sql.Compiled) : Prop where
  compiled : Sql.compile table [] (.run (.insert chunk)) = .ok c
  values : c.params = chunk.flatMap fun car => Column.all.map car.value
  numbered : Sql.placeholders c.sql = List.range' 1 c.params.length

/-- A prepared statement that the server carried out, with its parameters and the rows it counted. -/
structure Execution where
  prepared : Prepared
  params : List (Option Bytes)
  rows : Nat

structure Executed extends Execution where
  text : String

namespace Executed

def turns (x : Executed) : List Turn :=
  [.prepare x.text (.ok x.prepared), .execute x.prepared x.params (.ok x.rows)]

/-- It is the chunk's statement that was executed, with the chunk's own parameters. -/
def Inserts (table : String) (chunk : List Car) (x : Executed) : Prop :=
  ∃ c, ChunkStatement table chunk c ∧ x.text = c.sql ∧ Converts x.prepared c.params x.params

end Executed

/-- What a failure means for a caller. -/
inductive Translates : Failure → Error → Prop
  | duplicate {e : ServerError} (h : e.code = "23505") :
    Translates (.server e) (Cause.alreadyExists (e.detail.getD ""))
  | rejected {e : ServerError} (hnew : e.code ≠ "23505")
    (h : e.code = "42883" ∨ "22".isPrefixOf e.code = true) :
    Translates (.server e) (Cause.validation "filter" e.message)
  | database {e : ServerError} (hnew : e.code ≠ "23505")
    (h : ¬ (e.code = "42883" ∨ "22".isPrefixOf e.code = true)) :
    Translates (.server e) (Cause.driver ⟨"db error", [e.text]⟩)
  | value (e : BindError) : Translates (.bind e) (Cause.validation "value" e.message)
  | client (text : String) : Translates (.client text) (Cause.driver ⟨text, []⟩)

/-- A chunk that is not saved: what was said about it, and the error of the step that failed. -/
inductive Fails (table : String) : List Car → List Turn → Error → Prop
  | uncompiled : Fails table [] [] (Cause.adhoc "cannot insert an empty batch of cars")
  | unprepared {chunk : List Car} (c : Sql.Compiled) (hc : ChunkStatement table chunk c)
    {failure : Failure} {e : Error} (he : Translates failure e) :
    Fails table chunk [.prepare c.sql (.error failure)] e
  | unbound {chunk : List Car} (c : Sql.Compiled) (hc : ChunkStatement table chunk c) (p : Prepared)
    {e : Error} (h : Unsendable p c.params e) : Fails table chunk [.prepare c.sql (.ok p)] e
  | unexecuted {chunk : List Car} (c : Sql.Compiled) (hc : ChunkStatement table chunk c)
    (p : Prepared) (params : List (Option Bytes)) (h : Converts p c.params params)
    {failure : Failure} {e : Error} (he : Translates failure e) :
    Fails table chunk [.prepare c.sql (.ok p), .execute p params (.error failure)] e

/-- What is said about chunks in order: all of them are saved, or the first one that fails is the
last one that is spoken of. -/
inductive Batches (table : String) (chunks : List (List Car)) :
    List Turn → Except Error Nat → Prop
  | saved (done : List Executed) (h : List.Forall₂ (Executed.Inserts table) chunks done) :
    Batches table chunks (done.flatMap Executed.turns) (.ok (done.map (·.rows)).sum)
  | failed (front : List (List Car)) (chunk : List Car) (rest : List (List Car))
    (hchunks : chunks = front ++ chunk :: rest) (done : List Executed)
    (h : List.Forall₂ (Executed.Inserts table) front done) (last : List Turn) (e : Error)
    (hlast : Fails table chunk last e) :
    Batches table chunks (done.flatMap Executed.turns ++ last) (.error e)

/-- What is said for an insertion, from the opening of its transaction to the end of it, and what the
insertion answers. -/
inductive Transaction (table : String) (chunks : List (List Car)) :
    List Turn → Except Error Answer → Prop
  | unopened {failure : Failure} {e : Error} (he : Translates failure e) :
    Transaction table chunks [.start (.error failure), .rollback] (.error e)
  | failed (talk : List Turn) (e : Error) (h : Batches table chunks talk (.error e)) :
    Transaction table chunks (.start (.ok ()) :: talk ++ [.rollback]) (.error e)
  | uncommitted (talk : List Turn) (count : Nat) (h : Batches table chunks talk (.ok count))
    {failure : Failure} {e : Error} (he : Translates failure e) :
    Transaction table chunks (.start (.ok ()) :: talk ++ [.commit (.error failure)]) (.error e)
  | committed (talk : List Turn) (count : Nat) (h : Batches table chunks talk (.ok count)) :
    Transaction table chunks (.start (.ok ()) :: talk ++ [.commit (.ok ())]) (.ok (.count count))

/-! ## What the connection says -/

/-- The failures of a server are told apart by their codes. -/
theorem translates_toError (failure : Failure) : Translates failure failure.toError := by
  cases failure with
  | bind e => exact .value e
  | client text => exact .client text
  | server e =>
    rw [Failure.toError]
    cases hnew : e.isUniqueViolation with
    | true =>
      rw [ServerError.isUniqueViolation, beq_iff_eq] at hnew
      exact .duplicate hnew
    | false =>
      rw [ServerError.isUniqueViolation, beq_eq_false_iff_ne] at hnew
      have hrejects : e.rejectsInput = true ↔
          e.code = "42883" ∨ "22".isPrefixOf e.code = true := by
        rw [ServerError.rejectsInput, Bool.or_eq_true, beq_iff_eq]
      rw [if_neg Bool.false_ne_true]
      by_cases h : e.rejectsInput = true
      · rw [if_pos h]
        exact .rejected hnew (hrejects.1 h)
      · rw [if_neg h]
        exact .database hnew fun hcode => h (hrejects.2 hcode)

theorem ne_nil_of_compile {table : String} {chunk : List Car} {c : Sql.Compiled}
    (h : Sql.compile table [] (.run (.insert chunk)) = .ok c) : chunk ≠ [] := by
  rintro rfl
  cases h

theorem chunkStatement_of_compile {table : String} {chunk : List Car} {c : Sql.Compiled}
    (h : Sql.compile table [] (.run (.insert chunk)) = .ok c) : ChunkStatement table chunk c := by
  obtain ⟨c', hc', hparams⟩ := Sql.compile_insert table [] (ne_nil_of_compile h)
  rw [h] at hc'
  cases hc'
  have hvalues : c.params = (Sql.Statement.run (.insert chunk)).boundValues := hparams
  refine ⟨h, hparams, ?_⟩
  rw [Sql.sql_of_compile h, hvalues, ← Sql.values_fragments table]
  exact Sql.placeholders_write 0 _ (Sql.legible_fragments table _)

theorem fails_of_compile {table : String} {chunk : List Car} {e : Error}
    (h : Sql.compile table [] (.run (.insert chunk)) = .error e) : Fails table chunk [] e := by
  cases chunk with
  | nil =>
    cases h
    exact .uncompiled
  | cons car cars => cases h

/-- Every chunk that is not empty has its statement. -/
theorem chunkStatements (table : String) (chunks : List (List Car)) (h : ∀ chunk ∈ chunks, chunk ≠ []) :
    ∃ statements, List.Forall₂ (ChunkStatement table) chunks statements := by
  obtain ⟨statements, hstatements⟩ := Sql.exists_inserts table chunks h
  exact ⟨statements, hstatements.imp fun _ _ hc => chunkStatement_of_compile hc.compiled⟩

def insertBatch (server : Server σ) (chunk : List Car) : SessionM σ Nat := do
  let compiled ← compile (.run (.insert chunk))
  let p ← send (server.prepare compiled.sql)
  sendWith p compiled.params server.execute

theorem insertBatches_cons (server : Server σ) (chunk : List Car) (rest : List (List Car)) :
    insertBatches server (chunk :: rest) =
      insertBatch server chunk >>= fun count =>
        insertBatches server rest >>= fun more => pure (count + more) := by
  simp only [insertBatches, insertBatch, bind_assoc]

/-- A chunk is compiled, prepared and carried out, and stops at the first of these that fails. -/
theorem talks_insertBatch (server : Server σ) (session : Session) (chunk : List Car) :
    Talks session (insertBatch server chunk) (insertBatch server.recorded chunk)
      fun talk result after => after = session ∧
        ((∃ x : Executed, x.Inserts session.table chunk ∧ talk = x.turns ∧ result = .ok x.rows) ∨
          ∃ e, Fails session.table chunk talk e ∧ result = .error e) := by
  refine talks_compile_bind ?compiled ?uncompiled
  case uncompiled =>
    intro e hc
    exact ⟨rfl, .inr ⟨e, fails_of_compile hc, rfl⟩⟩
  intro c hc
  have hstatement := chunkStatement_of_compile hc
  refine talks_send_bind ?prepared ?unprepared
  case unprepared =>
    intro failure
    exact ⟨rfl, .inr ⟨_, .unprepared c hstatement (translates_toError failure), rfl⟩⟩
  intro p
  refine talks_sendWith (.execute p) ?unbound ?executed
  case unbound =>
    intro failure hbytes
    exact ⟨rfl, .inr ⟨_, .unbound c hstatement p (unsendable_of_encodeParams hbytes), rfl⟩⟩
  intro bytes answer hbytes
  have hconverts := converts_of_encodeParams hbytes
  cases answer with
  | error failure =>
    have htranslates := translates_toError failure
    exact ⟨rfl, .inr ⟨_, .unexecuted c hstatement p bytes hconverts htranslates, rfl⟩⟩
  | ok rows =>
    exact ⟨rfl, .inl ⟨⟨⟨p, bytes, rows⟩, c.sql⟩, ⟨c, hstatement, rfl, hconverts⟩, rfl, rfl⟩⟩

theorem Batches.cons {table : String} {chunk : List Car} {rest : List (List Car)} {x : Executed}
    {talk : List Turn} {result : Except Error Nat} (hx : x.Inserts table chunk)
    (h : Batches table rest talk result) :
    Batches table (chunk :: rest) (x.turns ++ talk) (result.map (x.rows + ·)) := by
  cases h with
  | saved done hdone => exact .saved (x :: done) (.cons hx hdone)
  | failed front chunk' rest' hchunks done hdone last e hlast =>
    have hfront : chunk :: rest = (chunk :: front) ++ chunk' :: rest' := by
      rw [hchunks, List.cons_append]
    rw [← List.append_assoc]
    exact .failed _ chunk' rest' hfront (x :: done) (.cons hx hdone) last e hlast

/-- By induction on the chunks: the first one that fails is the last one that is spoken of. -/
theorem talks_insertBatches (server : Server σ) (session : Session) (chunks : List (List Car)) :
    Talks session (insertBatches server chunks) (insertBatches server.recorded chunks)
      fun talk result after => after = session ∧ Batches session.table chunks talk result := by
  induction chunks with
  | nil => exact talks_pure ⟨rfl, .saved [] .nil⟩
  | cons chunk rest ih =>
    rw [insertBatches_cons, insertBatches_cons]
    refine Talks.bind (talks_insertBatch server session chunk) ?next ?fails
    case fails =>
      rintro talk e _ ⟨rfl, ⟨_, _, _, h⟩ | ⟨_, hfails, h⟩⟩
      · cases h
      · cases h
        exact ⟨rfl, .failed [] chunk rest rfl [] .nil talk e hfails⟩
    rintro _ count _ ⟨rfl, ⟨x, hx, rfl, h⟩ | ⟨_, _, h⟩⟩
    · cases h
      refine Talks.bind ih ?_ ?_
      · rintro more rows _ ⟨rfl, hrest⟩
        have hcons := hrest.cons hx
        rw [← List.append_nil more] at hcons
        exact talks_pure ⟨rfl, hcons⟩
      · rintro more e _ ⟨rfl, hrest⟩
        exact ⟨rfl, hrest.cons hx⟩
    · cases h

theorem orRollback_apply (server : Server σ) (run : SessionM σ α) (start : Session × σ) :
    orRollback server run start =
      match run start with
      | (.ok a, finish) => (.ok a, finish)
      | (.error e, finish) => (.error e, (finish.1, (server.rollback finish.2).2)) := by
  simp only [orRollback, tryCatch, tryCatchThe, MonadExceptOf.tryCatch, ExceptT.tryCatch, ExceptT.mk,
    bind, StateT.bind]
  cases run start with
  | mk result finish => cases result <;> rfl

theorem talks_orRollback (server : Server σ) {session : Session} {run : SessionM σ α}
    {recorded : SessionM (σ × List Turn) α} {post post' : List Turn → Except Error α → Session → Prop}
    (h : Talks session run recorded post)
    (hok : ∀ talk a after, post talk (.ok a) after → post' talk (.ok a) after)
    (hfails : ∀ talk e after, post talk (.error e) after →
      post' (talk ++ [.rollback]) (.error e) after) :
    Talks session (orRollback server run) (orRollback server.recorded recorded) post' := by
  intro s log
  obtain ⟨talk, result, after, t, hrun, hrecorded, hpost⟩ := h s log
  cases result with
  | ok a =>
    refine ⟨talk, .ok a, after, t, ?_, ?_, hok talk a after hpost⟩
    · rw [orRollback_apply, hrun]
    · rw [orRollback_apply, hrecorded]
  | error e =>
    refine ⟨talk ++ [.rollback], .error e, after, (server.rollback t).2, ?_, ?_,
      hfails talk e after hpost⟩
    · rw [orRollback_apply, hrun]
    · rw [orRollback_apply, hrecorded, ← List.append_assoc]
      rfl

def saveChunks (server : Server σ) (chunks : List (List Car)) : SessionM σ Nat := do
  send server.start
  insertBatches server chunks

theorem insert_eq (server : Server σ) (cars : List Car) :
    insert server cars = (do
      let count ← orRollback server (saveChunks server (Sql.insertChunks cars))
      send server.commit
      return .count count) :=
  rfl

theorem talks_saveChunks (server : Server σ) (session : Session) (chunks : List (List Car)) :
    Talks session (saveChunks server chunks) (saveChunks server.recorded chunks)
      fun talk result after => after = session ∧
        ((∃ failure : Failure, talk = [.start (.error failure)] ∧ result = .error failure.toError) ∨
          ∃ more, talk = .start (.ok ()) :: more ∧ Batches session.table chunks more result) := by
  refine talks_send_bind ?opened fun failure => ⟨rfl, .inl ⟨failure, rfl, rfl⟩⟩
  intro _
  refine (talks_insertBatches server session chunks).imp ?_
  rintro talk result _ ⟨rfl, hbatches⟩
  exact ⟨rfl, .inr ⟨talk, rfl, hbatches⟩⟩

/-- The transaction is opened before any chunk, and ended whatever comes of them. -/
theorem talks_insert (server : Server σ) (session : Session) (cars : List Car) :
    Talks session (insert server cars) (insert server.recorded cars) fun talk result after =>
      after = session ∧ Transaction session.table (Sql.insertChunks cars) talk result := by
  -- Before the commit a failure ends the transaction with a rollback.
  have hsaved : Talks session (orRollback server (saveChunks server (Sql.insertChunks cars)))
      (orRollback server.recorded (saveChunks server.recorded (Sql.insertChunks cars)))
      fun talk result after => after = session ∧
        match result with
        | .ok count => ∃ more, talk = .start (.ok ()) :: more ∧
            Batches session.table (Sql.insertChunks cars) more (.ok count)
        | .error e => Transaction session.table (Sql.insertChunks cars) talk (.error e) := by
    refine talks_orRollback server (talks_saveChunks server session _) ?_ ?_
    · rintro talk count _ ⟨rfl, ⟨_, _, h⟩ | hmore⟩
      · cases h
      · exact ⟨rfl, hmore⟩
    · rintro talk e _ ⟨rfl, ⟨failure, rfl, h⟩ | ⟨more, rfl, hmore⟩⟩
      · cases h
        exact ⟨rfl, .unopened (translates_toError failure)⟩
      · exact ⟨rfl, .failed more e hmore⟩
  rw [insert_eq, insert_eq]
  refine Talks.bind hsaved ?_ fun _ _ _ h => h
  rintro _ count _ ⟨rfl, more, rfl, hmore⟩
  refine talks_send_bind ?_ fun failure =>
    ⟨rfl, .uncommitted more count hmore (translates_toError failure)⟩
  intro _
  exact talks_pure ⟨rfl, .committed more count hmore⟩

/-! ## What lasts -/

namespace Turn

def executed? : Turn → Option Execution
  | .execute p params (.ok rows) => some ⟨p, params, rows⟩
  | _ => none

def isBoundary : Turn → Bool
  | .start _ | .commit _ | .rollback => true
  | _ => false

end Turn

def executions (talk : List Turn) : List Execution := talk.filterMap Turn.executed?

/-- The executions that last, and those that wait for the end of the open transaction. -/
structure Effects where
  lasting : List Execution := []
  waiting : Option (List Execution) := none

/-- What is documented of the server about the effects that a talk has had. In a transaction nothing
lasts before the commit; a commit that is acknowledged saves all that waits, and one that the server
refuses saves nothing. A commit whose answer is lost may have come to either. -/
structure KeepsTransactions (effects : List Turn → Effects) : Prop where
  opened : ∀ talk, (effects talk).waiting = none →
    effects (talk ++ [.start (.ok ())]) = ⟨(effects talk).lasting, some []⟩
  unopened : ∀ talk failure,
    (effects (talk ++ [.start (.error failure)])).lasting = (effects talk).lasting
  prepared : ∀ talk sql p, effects (talk ++ [.prepare sql (.ok p)]) = effects talk
  unprepared : ∀ talk sql failure,
    (effects (talk ++ [.prepare sql (.error failure)])).lasting = (effects talk).lasting
  executed : ∀ talk waiting p params rows, (effects talk).waiting = some waiting →
    effects (talk ++ [.execute p params (.ok rows)]) =
      ⟨(effects talk).lasting, some (waiting ++ [⟨p, params, rows⟩])⟩
  unexecuted : ∀ talk waiting p params failure, (effects talk).waiting = some waiting →
    (effects (talk ++ [.execute p params (.error failure)])).lasting = (effects talk).lasting
  committed : ∀ talk waiting, (effects talk).waiting = some waiting →
    (effects (talk ++ [.commit (.ok ())])).lasting = (effects talk).lasting ++ waiting
  refused : ∀ talk e,
    (effects (talk ++ [.commit (.error (.server e))])).lasting = (effects talk).lasting
  unanswered : ∀ talk waiting failure, (effects talk).waiting = some waiting →
    (effects (talk ++ [.commit (.error failure)])).lasting = (effects talk).lasting ∨
    (effects (talk ++ [.commit (.error failure)])).lasting = (effects talk).lasting ++ waiting
  givenUp : ∀ talk, (effects (talk ++ [.rollback])).lasting = (effects talk).lasting

theorem executions_cons (turn : Turn) (talk : List Turn) :
    executions (turn :: talk) = turn.executed?.toList ++ executions talk := by
  rw [executions, executions, List.filterMap_cons]
  cases turn.executed? <;> rfl

theorem executions_turns (done : List Executed) :
    executions (done.flatMap Executed.turns) = done.map Executed.toExecution := by
  induction done with
  | nil => rfl
  | cons x done ih =>
    rw [List.flatMap_cons, Executed.turns, List.cons_append, List.cons_append, executions_cons,
      executions_cons, List.nil_append, ih]
    rfl

theorem Fails.executions_eq {table : String} {chunk : List Car} {talk : List Turn} {e : Error}
    (h : Fails table chunk talk e) : executions talk = [] := by
  cases h <;> rfl

theorem Batches.ne_nil_of_saved {table : String} {chunks : List (List Car)} {talk : List Turn}
    {count : Nat} (h : Batches table chunks talk (.ok count)) {chunk : List Car}
    (hchunk : chunk ∈ chunks) : chunk ≠ [] := by
  cases h with
  | saved done hdone =>
    obtain ⟨i, hi, rfl⟩ := List.getElem_of_mem hchunk
    obtain ⟨c, hc, _⟩ := (List.forall₂_iff_get.1 hdone).2 i hi (hdone.length_eq ▸ hi)
    exact ne_nil_of_compile hc.compiled

inductive ChunkTurn (table : String) : Turn → Prop
  | prepare (chunk : List Car) (c : Sql.Compiled) (hc : ChunkStatement table chunk c)
    (answer : Except Failure Prepared) : ChunkTurn table (.prepare c.sql answer)
  | execute (p : Prepared) (params : List (Option Bytes)) (answer : Except Failure Nat) :
    ChunkTurn table (.execute p params answer)

theorem Executed.Inserts.chunkTurn {table : String} {chunk : List Car} {x : Executed}
    (h : x.Inserts table chunk) : ∀ turn ∈ x.turns, ChunkTurn table turn := by
  obtain ⟨c, hc, htext, _⟩ := h
  rw [Executed.turns, List.forall_mem_cons, List.forall_mem_singleton, htext]
  exact ⟨.prepare chunk c hc _, .execute _ _ _⟩

theorem Fails.chunkTurn {table : String} {chunk : List Car} {talk : List Turn} {e : Error}
    (h : Fails table chunk talk e) : ∀ turn ∈ talk, ChunkTurn table turn := by
  cases h with
  | uncompiled => exact nofun
  | unprepared c hc | unbound c hc =>
    rw [List.forall_mem_singleton]
    exact .prepare chunk c hc _
  | unexecuted c hc =>
    rw [List.forall_mem_cons, List.forall_mem_singleton]
    exact ⟨.prepare chunk c hc _, .execute _ _ _⟩

theorem Batches.chunkTurn {table : String} {chunks : List (List Car)} {talk : List Turn}
    {result : Except Error Nat} (h : Batches table chunks talk result) :
    ∀ turn ∈ talk, ChunkTurn table turn := by
  have hdone {chunks : List (List Car)} {done : List Executed}
      (h : List.Forall₂ (Executed.Inserts table) chunks done) :
      ∀ turn ∈ done.flatMap Executed.turns, ChunkTurn table turn := by
    induction h with
    | nil => exact nofun
    | cons hx _ ih =>
      rw [List.flatMap_cons, List.forall_mem_append]
      exact ⟨hx.chunkTurn, ih⟩
  cases h with
  | saved done h => exact hdone h
  | failed front chunk rest _ done h last e hfails =>
    rw [List.forall_mem_append]
    exact ⟨hdone h, hfails.chunkTurn⟩

theorem Batches.isBoundary_eq {table : String} {chunks : List (List Car)} {talk : List Turn}
    {result : Except Error Nat} (h : Batches table chunks talk result) :
    ∀ turn ∈ talk, turn.isBoundary = false := by
  intro turn hturn
  cases h.chunkTurn turn hturn <;> rfl

theorem Batches.executions_of_saved {table : String} {chunks : List (List Car)} {talk : List Turn}
    {count : Nat} (h : Batches table chunks talk (.ok count)) :
    (executions talk).length = chunks.length ∧ ((executions talk).map (·.rows)).sum = count := by
  cases h with
  | saved done hdone =>
    rw [executions_turns, List.length_map, List.map_map]
    exact ⟨hdone.length_eq.symm, rfl⟩

theorem Batches.executions_of_failed {table : String} {chunks : List (List Car)} {talk : List Turn}
    {e : Error} (h : Batches table chunks talk (.error e)) :
    (executions talk).length < chunks.length := by
  cases h with
  | failed front chunk rest hchunks done hdone last _ hlast =>
    have hexecuted : (executions (done.flatMap Executed.turns ++ last)).length = front.length := by
      rw [executions, List.filterMap_append, ← executions, ← executions, executions_turns,
        hlast.executions_eq, List.append_nil, List.length_map, hdone.length_eq]
    rw [hexecuted, hchunks, List.length_append, List.length_cons]
    omega

theorem commit_mem_framed {talk : List Turn} (h : ∀ turn ∈ talk, turn.isBoundary = false)
    (last : Turn) (answer : Except Failure Unit) :
    .commit answer ∈ (.start (.ok ()) :: talk ++ [last] : List Turn) ↔ .commit answer = last := by
  rw [List.mem_append, List.mem_cons, List.mem_singleton]
  constructor
  · rintro ((hstart | hmem) | hlast)
    · cases hstart
    · cases h _ hmem
    · exact hlast
  · exact .inr

theorem executions_framed (talk : List Turn) {last : Turn} (hlast : last.executed? = none) :
    executions (.start (.ok ()) :: talk ++ [last]) = executions talk := by
  have hframe : executions [last] = [] := by
    rw [executions_cons, hlast]
    rfl
  rw [List.cons_append, executions_cons, executions, List.filterMap_append, ← executions,
    ← executions, hframe, List.append_nil]
  rfl

namespace Transaction

variable {table : String} {chunks : List (List Car)} {talk : List Turn}
  {result : Except Error Answer}

/-- A commit is sent when the transaction is open and every chunk is carried out. -/
theorem commit_mem_iff (h : Transaction table chunks talk result) :
    (∃ answer, .commit answer ∈ talk) ↔ .start (.ok ()) ∈ talk ∧ (∀ chunk ∈ chunks, chunk ≠ []) ∧
      (executions talk).length = chunks.length := by
  have hsent {talk : List Turn} {count : Nat} (h : Batches table chunks talk (.ok count))
      (answer : Except Failure Unit) :
      (∃ answer', .commit answer' ∈ (.start (.ok ()) :: talk ++ [.commit answer] : List Turn)) ↔
        .start (.ok ()) ∈ (.start (.ok ()) :: talk ++ [.commit answer] : List Turn) ∧
          (∀ chunk ∈ chunks, chunk ≠ []) ∧
          (executions (.start (.ok ()) :: talk ++ [.commit answer])).length = chunks.length := by
    rw [executions_framed talk rfl]
    refine ⟨fun _ => ⟨List.mem_cons_self, ?_, h.executions_of_saved.1⟩, fun _ => ⟨answer, ?_⟩⟩
    · exact fun chunk hchunk => h.ne_nil_of_saved hchunk
    · exact (commit_mem_framed h.isBoundary_eq _ answer).2 rfl
  cases h with
  | unopened => simp
  | failed talk e h =>
    -- The chunk that failed is missing among the executions.
    have hlength := h.executions_of_failed
    rw [executions_framed talk rfl]
    simp only [commit_mem_framed h.isBoundary_eq]
    constructor
    · rintro ⟨answer, hanswer⟩
      cases hanswer
    · rintro ⟨_, _, hall⟩
      omega
  | @uncommitted talk count h failure => exact hsent h (.error failure)
  | committed talk count h => exact hsent h (.ok ())

/-- The answer is the sum of the row counts, when there is one. -/
theorem eq_ok_iff (h : Transaction table chunks talk result) (answer : Answer) :
    result = .ok answer ↔ .commit (.ok ()) ∈ talk ∧
      answer = .count ((executions talk).map (·.rows)).sum := by
  cases h with
  | unopened => simp
  | failed talk e h =>
    rw [commit_mem_framed h.isBoundary_eq]
    exact ⟨nofun, fun hmem => nomatch hmem.1⟩
  | uncommitted talk count h =>
    rw [commit_mem_framed h.isBoundary_eq]
    exact ⟨nofun, fun hmem => nomatch hmem.1⟩
  | committed talk count h =>
    rw [commit_mem_framed h.isBoundary_eq, executions_framed talk rfl, h.executions_of_saved.2]
    simp [eq_comm]

end Transaction

section Lasting

variable {effects : List Turn → Effects} (h : KeepsTransactions effects) {table : String}

include h

/-- In an open transaction executions only add to what waits. -/
theorem effects_turns (done : List Executed) (before : List Turn) (waiting : List Execution)
    (hopen : (effects before).waiting = some waiting) :
    effects (before ++ done.flatMap Executed.turns) =
      ⟨(effects before).lasting, some (waiting ++ done.map Executed.toExecution)⟩ := by
  induction done generalizing before waiting with
  | nil =>
    rw [List.flatMap_nil, List.append_nil, List.map_nil, List.append_nil, ← hopen]
  | cons x done ih =>
    have hprepared := h.prepared before x.text x.prepared
    rw [← hprepared] at hopen
    have hexecuted := h.executed _ waiting x.prepared x.params x.rows hopen
    have hrest := ih _ _ (congrArg Effects.waiting hexecuted)
    rw [hexecuted, hprepared, List.append_assoc waiting] at hrest
    rw [List.flatMap_cons, Executed.turns, List.map_cons, List.cons_append, List.cons_append,
      List.nil_append, List.append_cons before, List.append_cons (before ++ _)]
    exact hrest

/-- Whatever a chunk fails at, nothing lasts of it. -/
theorem lasting_of_fails {chunk : List Car} {last : List Turn} {e : Error}
    (hfails : Fails table chunk last e) {before : List Turn} {waiting : List Execution}
    (hopen : (effects before).waiting = some waiting) :
    (effects (before ++ last)).lasting = (effects before).lasting := by
  cases hfails with
  | uncompiled => rw [List.append_nil]
  | unprepared c => exact h.unprepared before c.sql _
  | unbound c _ p => rw [h.prepared before c.sql p]
  | unexecuted c _ p params =>
    have hprepared := h.prepared before c.sql p
    rw [← hprepared] at hopen
    rw [List.append_cons, h.unexecuted _ waiting p params _ hopen, hprepared]

variable {chunks : List (List Car)} {talk : List Turn} {before : List Turn}
  (hidle : (effects before).waiting = none)

include hidle

theorem effects_of_saved {count : Nat} (hbatches : Batches table chunks talk (.ok count)) :
    effects (before ++ .start (.ok ()) :: talk) =
      ⟨(effects before).lasting, some (executions talk)⟩ := by
  have hopened := h.opened before hidle
  cases hbatches with
  | saved done hdone =>
    rw [List.append_cons, executions_turns,
      effects_turns h done _ [] (congrArg Effects.waiting hopened), hopened, List.nil_append]

theorem lasting_of_failed {e : Error} (hbatches : Batches table chunks talk (.error e)) :
    (effects (before ++ .start (.ok ()) :: talk)).lasting = (effects before).lasting := by
  have hopened := h.opened before hidle
  cases hbatches with
  | failed front chunk rest hchunks done hdone last e hlast =>
    have hfront := effects_turns h done _ [] (congrArg Effects.waiting hopened)
    rw [List.append_cons, ← List.append_assoc,
      lasting_of_fails h hlast (congrArg Effects.waiting hfront), hfront, hopened]

theorem lasting_of_ok {answer : Answer} (htransaction : Transaction table chunks talk (.ok answer)) :
    (effects (before ++ talk)).lasting = (effects before).lasting ++ executions talk := by
  cases htransaction with
  | committed talk count hbatches =>
    have hsaved := effects_of_saved h hidle hbatches
    rw [← List.append_assoc, h.committed _ _ (congrArg Effects.waiting hsaved), hsaved,
      executions_framed talk rfl]

/-- An insertion that fails saves nothing, or the answer to its commit is lost and it saves all. -/
theorem lasting_of_error {e : Error} (htransaction : Transaction table chunks talk (.error e)) :
    (effects (before ++ talk)).lasting = (effects before).lasting ∨
    ∃ failure, .commit (.error failure) ∈ talk ∧ (∀ refusal, failure ≠ .server refusal) ∧
      (effects (before ++ talk)).lasting = (effects before).lasting ++ executions talk := by
  cases htransaction with
  | unopened he =>
    left
    rw [List.append_cons, h.givenUp, h.unopened]
  | failed talk e hbatches =>
    left
    rw [← List.append_assoc, h.givenUp, lasting_of_failed h hidle hbatches]
  | @uncommitted talk count hbatches failure e he =>
    have hsaved := effects_of_saved h hidle hbatches
    have hopen := congrArg Effects.waiting hsaved
    have hlasting := congrArg Effects.lasting hsaved
    rw [← List.append_assoc, executions_framed talk rfl, ← hlasting]
    by_cases hserver : ∃ refusal, failure = .server refusal
    · obtain ⟨refusal, rfl⟩ := hserver
      exact .inl (h.refused _ refusal)
    · refine (h.unanswered _ _ failure hopen).imp id fun hall =>
        ⟨failure, ?_, fun refusal heq => hserver ⟨refusal, heq⟩, hall⟩
      exact (commit_mem_framed hbatches.isBoundary_eq _ _).2 rfl

end Lasting

theorem forall_chunk_ne_nil {cars : List Car} :
    (∀ chunk ∈ Sql.insertChunks cars, chunk ≠ []) ↔ cars ≠ [] := by
  constructor
  · rintro h rfl
    have hone : [] ∈ Sql.insertChunks [] := by
      rw [Sql.insertChunks]
      exact List.mem_singleton_self []
    exact h [] hone rfl
  · exact Sql.ne_nil_of_mem_insertChunks

/-- An insertion talks to the server in one transaction and keeps nothing of it. The statements of the
chunks, each with its own parameters, are carried out in order up to the first failure, which is the
answer. A commit is sent when the transaction is open and every chunk of a batch is carried out, and the
insertion succeeds when the commit does, with the sum of the row counts. Unless it succeeds nothing
lasts, or the whole batch does because the answer to the commit is lost. -/
theorem insert_in_one_transaction {effects : List Turn → Effects}
    (heffects : KeepsTransactions effects) (server : Server σ) (cars : List Car) (session : Session)
    (s : σ) (log : List Turn) (hidle : (effects log).waiting = none) :
    ∃ talk result t,
      insert server cars (session, s) = (result, (session, t)) ∧
      insert server.recorded cars (session, (s, log)) = (result, (session, (t, log ++ talk))) ∧
      Transaction session.table (Sql.insertChunks cars) talk result ∧
      (Sql.insertChunks cars).flatten = cars ∧
      (cars = [] ∨ ∃ statements,
        List.Forall₂ (ChunkStatement session.table) (Sql.insertChunks cars) statements) ∧
      ((∃ answer, .commit answer ∈ talk) ↔ .start (.ok ()) ∈ talk ∧ cars ≠ [] ∧
        (executions talk).length = (Sql.insertChunks cars).length) ∧
      (∀ answer, result = .ok answer ↔
        .commit (.ok ()) ∈ talk ∧ answer = .count ((executions talk).map (·.rows)).sum) ∧
      match result with
      | .ok _ => (effects (log ++ talk)).lasting = (effects log).lasting ++ executions talk
      | .error _ => (effects (log ++ talk)).lasting = (effects log).lasting ∨
          ∃ failure, .commit (.error failure) ∈ talk ∧ (∀ refusal, failure ≠ .server refusal) ∧
            (effects (log ++ talk)).lasting = (effects log).lasting ++ executions talk := by
  obtain ⟨talk, result, after, t, hrun, hrecorded, hafter, htransaction⟩ :=
    talks_insert server session cars s log
  rw [hafter] at hrun hrecorded
  have hstatements : cars = [] ∨ ∃ statements,
      List.Forall₂ (ChunkStatement session.table) (Sql.insertChunks cars) statements := by
    by_cases hcars : cars = []
    · exact .inl hcars
    · exact .inr (chunkStatements session.table _ (Sql.ne_nil_of_mem_insertChunks hcars))
  have hcommit := htransaction.commit_mem_iff
  rw [forall_chunk_ne_nil] at hcommit
  refine ⟨talk, result, t, hrun, hrecorded, htransaction, Sql.flatten_insertChunks cars,
    hstatements, hcommit, htransaction.eq_ok_iff, ?_⟩
  cases result with
  | ok answer => exact lasting_of_ok heffects hidle htransaction
  | error e => exact lasting_of_error heffects hidle htransaction

/-- The effects after one more turn. A failure inside a transaction takes back what waits in it. -/
def Effects.after (effects : Effects) : Turn → Effects
  | .start (.ok ()) => { effects with waiting := some [] }
  | .execute p params (.ok rows) =>
    match effects.waiting with
    | some waiting => { effects with waiting := some (waiting ++ [⟨p, params, rows⟩]) }
    | none => { effects with lasting := effects.lasting ++ [⟨p, params, rows⟩] }
  | .prepare _ (.error _) | .execute _ _ (.error _) =>
    { effects with waiting := effects.waiting.map fun _ => [] }
  | .commit (.ok ()) => { lasting := effects.lasting ++ effects.waiting.getD [] }
  | .commit (.error _) | .rollback => { lasting := effects.lasting }
  | _ => effects

/-- The effects of a talk with a server that was at rest. -/
def effectsOf (talk : List Turn) : Effects := talk.foldl Effects.after {}

theorem effectsOf_append (talk : List Turn) (turn : Turn) :
    effectsOf (talk ++ [turn]) = (effectsOf talk).after turn :=
  List.foldl_append

/-- These effects are such as servers document. -/
theorem keepsTransactions_effectsOf : KeepsTransactions effectsOf := by
  constructor
  case unanswered =>
    intro talk waiting failure h
    rw [effectsOf_append]
    exact .inl rfl
  case executed =>
    intro talk waiting p params rows h
    rw [effectsOf_append, Effects.after, h]
  case committed =>
    intro talk waiting h
    rw [effectsOf_append, Effects.after, h]
    rfl
  all_goals
    intros
    rw [effectsOf_append]
    rfl

def counting (commitError : Option ServerError) : ScriptedServer :=
  { script := { affected := 1, commitError } }

def insertOne (commitError : Option ServerError) :
    Except Error Answer × Session × ScriptedServer × List Turn :=
  insert ScriptedServer.server.recorded [{ regNum := "A1" }]
    ({ table := "cars" }, (counting commitError, []))

def canceled : ServerError := { code := "57014", message := "canceled" }

def Turn.commitFailure? : Turn → Option Failure
  | .commit (.error failure) => some failure
  | _ => none

/-- The car lasts once its commit is acknowledged, and does not when the commit is refused. -/
theorem insert_with_and_without_commit :
    KeepsTransactions effectsOf ∧ (effectsOf []).waiting = none ∧
    (insertOne none).1 = .ok (.count 1) ∧
    (effectsOf (insertOne none).2.2.2).lasting.map (·.rows) = [1] ∧
    (insertOne (some canceled)).1 = .error (Cause.driver ⟨"db error", ["ERROR: canceled"]⟩) ∧
    (insertOne (some canceled)).2.2.2.filterMap Turn.commitFailure? = [.server canceled] ∧
    (effectsOf (insertOne (some canceled)).2.2.2).lasting = [] := by
  have hidle : (effectsOf []).waiting = none := rfl
  have hinsert (commitError : Option ServerError) :=
    insert_in_one_transaction keepsTransactions_effectsOf ScriptedServer.server [{ regNum := "A1" }]
      { table := "cars" } (counting commitError) [] hidle
  have hsaved : (insertOne none).1 = .ok (.count 1) := by decide +kernel
  have hrefused : (insertOne (some canceled)).1 =
      .error (Cause.driver ⟨"db error", ["ERROR: canceled"]⟩) := by decide +kernel
  have hcommit : (insertOne (some canceled)).2.2.2.filterMap Turn.commitFailure? =
      [.server canceled] := by decide +kernel
  refine ⟨keepsTransactions_effectsOf, hidle, hsaved, ?_, hrefused, hcommit, ?_⟩
  · obtain ⟨talk, result, t, _, hrecorded, _, _, _, _, _, hlasting⟩ := hinsert none
    have hrows : (executions (insertOne none).2.2.2).map (·.rows) = [1] := by decide +kernel
    rw [insertOne, hrecorded] at hsaved hrows ⊢
    cases hsaved
    rw [hlasting]
    exact hrows
  · obtain ⟨talk, result, t, _, hrecorded, _, _, _, _, _, hlasting⟩ := hinsert (some canceled)
    rw [insertOne, hrecorded] at hrefused hcommit ⊢
    cases hrefused
    rcases hlasting with hnone | ⟨failure, hmem, hother, _⟩
    · exact hnone
    · -- The only failure of a commit is the server's own.
      have hfailure : failure ∈ talk.filterMap Turn.commitFailure? :=
        List.mem_filterMap.2 ⟨_, hmem, rfl⟩
      rw [List.nil_append] at hcommit
      rw [hcommit, List.mem_singleton] at hfailure
      exact absurd hfailure (hother canceled)

end VehicleRecords.Postgres
