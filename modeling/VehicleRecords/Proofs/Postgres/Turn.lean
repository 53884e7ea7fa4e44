import VehicleRecords.Proofs.Postgres.Statement

/-!
What a connection says to its server. A recorded server writes down every request with its answer. A
computation does there what it does on the server itself, and what it adds to the record is described
step by step (`Talks`).
-/
namespace VehicleRecords.Postgres

variable {σ α β : Type}

/-- A request to a server, with its answer. -/
inductive Turn where
  | simple (sql : String) (answer : Except Failure Unit)
  | prepare (sql : String) (answer : Except Failure Prepared)
  | execute (p : Prepared) (params : List (Option Bytes)) (answer : Except Failure Nat)
  | query (p : Prepared) (params : List (Option Bytes)) (answer : Except Failure (List Cells))
  | start (answer : Except Failure Unit)
  | commit (answer : Except Failure Unit)
  | rollback

def record (turn : Except Failure α → Turn) (exchange : Exchange σ α) :
    Exchange (σ × List Turn) α := fun (s, log) =>
  let (answer, t) := exchange s
  (answer, (t, log ++ [turn answer]))

def Server.recorded (server : Server σ) : Server (σ × List Turn) where
  simple sql := record (.simple sql) (server.simple sql)
  prepare sql := record (.prepare sql) (server.prepare sql)
  execute p params := record (.execute p params) (server.execute p params)
  query p params := record (.query p params) (server.query p params)
  start := record .start server.start
  commit := record .commit server.commit
  rollback := fun (s, log) => ((), ((server.rollback s).2, log ++ [.rollback]))

/-- From `session` on, and whatever the server's state is, a computation comes on the server and on
the recorded one to the same result, session and state. What it adds to the record, the result and the
session it leaves satisfy `post`. -/
def Talks (session : Session) (run : SessionM σ α) (recorded : SessionM (σ × List Turn) α)
    (post : List Turn → Except Error α → Session → Prop) : Prop :=
  ∀ s log, ∃ talk result after t,
    run (session, s) = (result, (after, t)) ∧
    recorded (session, (s, log)) = (result, (after, (t, log ++ talk))) ∧ post talk result after

section Steps

variable {session : Session} {post : List Turn → Except Error α → Session → Prop}

theorem Talks.imp {run : SessionM σ α} {recorded : SessionM (σ × List Turn) α}
    {post' : List Turn → Except Error α → Session → Prop} (h : Talks session run recorded post)
    (himp : ∀ talk result after, post talk result after → post' talk result after) :
    Talks session run recorded post' := by
  intro s log
  obtain ⟨talk, result, after, t, hrun, hrecorded, hpost⟩ := h s log
  exact ⟨talk, result, after, t, hrun, hrecorded, himp talk result after hpost⟩

theorem talks_pure {a : α} (h : post [] (.ok a) session) :
    Talks (σ := σ) session (pure a) (pure a) post :=
  fun s log => ⟨[], .ok a, session, s, rfl, by rw [List.append_nil]; rfl, h⟩

theorem talks_throw {e : Error} (h : post [] (.error e) session) :
    Talks (σ := σ) session (throw e) (throw e) post :=
  fun s log => ⟨[], .error e, session, s, rfl, by rw [List.append_nil]; rfl, h⟩

theorem talks_send {turn : Except Failure α → Turn} {exchange : Exchange σ α}
    (h : ∀ answer, post [turn answer] (answer.mapError Failure.toError) session) :
    Talks session (send exchange) (send (record turn exchange)) post := by
  intro s log
  exact ⟨_, _, _, _, rfl, rfl, h (exchange s).1⟩

/-- A request whose parameters cannot be written is not sent. -/
theorem talks_sendWith {p : Prepared} {params : List Value}
    (turn : List (Option Bytes) → Except Failure α → Turn)
    {run : Prepared → List (Option Bytes) → Exchange σ α}
    (hrefused : ∀ e, encodeParams p 0 params = .error e → post [] (.error e.toError) session)
    (hsent : ∀ bytes answer, encodeParams p 0 params = .ok bytes →
      post [turn bytes answer] (answer.mapError Failure.toError) session) :
    Talks session (sendWith p params run)
      (sendWith p params fun p bytes => record (turn bytes) (run p bytes)) post := by
  unfold sendWith
  cases hbytes : encodeParams p 0 params with
  | error e => exact talks_throw (hrefused e hbytes)
  | ok bytes => exact talks_send fun answer => hsent bytes answer hbytes

/-- The record of two computations is the record of the first one with that of the second behind it. -/
theorem Talks.bind {run : SessionM σ α} {recorded : SessionM (σ × List Turn) α}
    {next : α → SessionM σ β} {recordedNext : α → SessionM (σ × List Turn) β}
    {post' : List Turn → Except Error β → Session → Prop} (h : Talks session run recorded post)
    (hnext : ∀ talk a between, post talk (.ok a) between →
      Talks between (next a) (recordedNext a) fun more => post' (talk ++ more))
    (hfails : ∀ talk e after, post talk (.error e) after → post' talk (.error e) after) :
    Talks session (run >>= next) (recorded >>= recordedNext) post' := by
  intro s log
  obtain ⟨talk, result, between, t, hrun, hrecorded, hpost⟩ := h s log
  cases result with
  | error e =>
    refine ⟨talk, .error e, between, t, ?_, ?_, hfails talk e between hpost⟩
    · rw [StoreM.bind_apply, hrun]
    · rw [StoreM.bind_apply, hrecorded]
  | ok a =>
    obtain ⟨more, result, after, u, hthen, hthenRecorded, hpost'⟩ :=
      hnext talk a between hpost t (log ++ talk)
    refine ⟨talk ++ more, result, after, u, ?_, ?_, hpost'⟩
    · rw [bind_of_ok hrun, hthen]
    · rw [bind_of_ok hrecorded, hthenRecorded, List.append_assoc]

theorem talks_get_bind {next : Session × σ → SessionM σ β}
    {recordedNext : Session × (σ × List Turn) → SessionM (σ × List Turn) β}
    {post : List Turn → Except Error β → Session → Prop}
    (h : ∀ s log, Talks session (next (session, s)) (recordedNext (session, (s, log))) post) :
    Talks session (get >>= next) (get >>= recordedNext) post :=
  fun s log => h s log s log

theorem talks_modify_bind (change : Session → Session) {next : Unit → SessionM σ β}
    {recordedNext : Unit → SessionM (σ × List Turn) β}
    {post : List Turn → Except Error β → Session → Prop}
    (h : Talks (change session) (next ()) (recordedNext ()) post) :
    Talks session ((modify fun (x, s) => (change x, s)) >>= next)
      ((modify fun (x, s) => (change x, s)) >>= recordedNext) post :=
  h

theorem talks_send_bind {turn : Except Failure α → Turn} {exchange : Exchange σ α}
    {next : α → SessionM σ β} {recordedNext : α → SessionM (σ × List Turn) β}
    {post : List Turn → Except Error β → Session → Prop}
    (hok : ∀ a, Talks session (next a) (recordedNext a) fun more => post (turn (.ok a) :: more))
    (herror : ∀ failure, post [turn (.error failure)] (.error failure.toError) session) :
    Talks session (send exchange >>= next) (send (record turn exchange) >>= recordedNext) post := by
  have hsend : Talks session (send exchange) (send (record turn exchange)) fun talk result after =>
      ∃ answer, talk = [turn answer] ∧ result = answer.mapError Failure.toError ∧ after = session :=
    talks_send fun answer => ⟨answer, rfl, rfl, rfl⟩
  refine Talks.bind hsend ?_ ?_
  · rintro _ a _ ⟨answer, rfl, hanswer, rfl⟩
    cases answer with
    | ok a => cases hanswer; exact hok a
    | error failure => cases hanswer
  · rintro _ e _ ⟨answer, rfl, hanswer, rfl⟩
    cases answer with
    | ok a => cases hanswer
    | error failure => cases hanswer; exact herror failure

theorem talks_compile_bind {stmt : Sql.Statement} {next : Sql.Compiled → SessionM σ β}
    {recordedNext : Sql.Compiled → SessionM (σ × List Turn) β}
    {post : List Turn → Except Error β → Session → Prop}
    (hok : ∀ c, Sql.compile session.table [] stmt = .ok c →
      Talks session (next c) (recordedNext c) post)
    (herror : ∀ e, Sql.compile session.table [] stmt = .error e → post [] (.error e) session) :
    Talks session (compile stmt >>= next) (compile stmt >>= recordedNext) post := by
  intro s log
  cases hc : Sql.compile session.table [] stmt with
  | ok c =>
    obtain ⟨talk, result, after, t, hrun, hrecorded, hpost⟩ := hok c hc s log
    refine ⟨talk, result, after, t, ?_, ?_, hpost⟩
    · rw [bind_of_ok (compile_of_ok hc), hrun]
    · rw [bind_of_ok (compile_of_ok hc), hrecorded]
  | error e =>
    refine ⟨[], .error e, session, s, ?_, ?_, herror e hc⟩
    · rw [StoreM.bind_apply, compile_apply, hc]
    · rw [StoreM.bind_apply, compile_apply, hc, List.append_nil]

end Steps

end VehicleRecords.Postgres
