import VehicleRecords.Proofs.Postgres.Kept
import VehicleRecords.Proofs.Postgres.Transaction

/-!
What each request to a connection says to the server, and what it leaves kept. A statement of fixed
shape runs with what is kept for its text (`talks_runStatement`), an insertion keeps nothing, and a reset
keeps nothing from the drop of the table on (`talks_resetTable`).
-/
namespace VehicleRecords.Postgres

variable {σ α : Type}

/-! ## One statement -/

/-- How a connection gets a prepared statement for a text. A failed preparation leaves it as it was. -/
inductive Fetched (session : Session) (text : String) :
    List Turn → Except Error Prepared → Session → Prop
  | kept (p : Prepared) (h : session.kept.lookup text = some p) :
    Fetched session text [] (.ok p) session
  | new (p : Prepared) (h : session.kept.lookup text = none) :
    Fetched session text [.prepare text (.ok p)] (.ok p)
      { session with kept := (text, p) :: session.kept }
  | refused (failure : Failure) :
    Fetched session text [.prepare text (.error failure)] (.error failure.toError) session

theorem talks_prepareKept (server : Server σ) (session : Session) (text : String) :
    Talks session (prepareKept server text) (prepareKept server.recorded text)
      (Fetched session text) := by
  refine talks_get_bind fun s log => ?_
  dsimp only
  cases h : session.kept.lookup text with
  | some p => exact talks_pure (.kept p h)
  | none =>
    refine talks_send_bind ?_ .refused
    intro p
    exact talks_modify_bind (fun session => { session with kept := (text, p) :: session.kept })
      (talks_pure (.new p h))

def answerWith (server : Server σ) (op : Operation) (params : List Value) (p : Prepared) :
    SessionM σ Answer := do
  if (Sql.Statement.run op).returnsRows then
    let rows ← sendWith p params server.query
    match rows.mapM (carOfRow p.columns) with
    | .error e => throw e
    | .ok cars =>
      match missing? cars.length op with
      | some e => throw e
      | none => return .cars cars
  else
    let count ← sendWith p params server.execute
    match missing? count op with
    | some e => throw e
    | none => return .count count

theorem runStatement_eq (server : Server σ) (op : Operation) :
    runStatement server op = (do
      let c ← compile (.run op)
      let p ← if (Sql.Statement.run op).hasFixedShape then prepareKept server c.sql
        else send (server.prepare c.sql)
      answerWith server op c.params p) :=
  rfl

def RunsOnce (p : Prepared) (talk : List Turn) : Prop :=
  talk = [] ∨ ∃ turn : Turn, talk = [turn] ∧ turn.handle? = some p

theorem talks_sendOnce (session : Session) (p : Prepared) (params : List Value)
    {turn : List (Option Bytes) → Except Failure α → Turn}
    (run : Prepared → List (Option Bytes) → Exchange σ α)
    (hturn : ∀ bytes answer, (turn bytes answer).handle? = some p) :
    Talks session (sendWith p params run)
      (sendWith p params fun p bytes => record (turn bytes) (run p bytes))
      fun talk _ after => after = session ∧ RunsOnce p talk := by
  refine talks_sendWith turn (fun _ _ => ⟨rfl, .inl rfl⟩) ?_
  intro bytes answer _
  exact ⟨rfl, .inr ⟨turn bytes answer, rfl, hturn bytes answer⟩⟩

theorem talks_answerWith (server : Server σ) (session : Session) (op : Operation)
    (params : List Value) (p : Prepared) :
    Talks session (answerWith server op params p) (answerWith server.recorded op params p)
      fun talk _ after => after = session ∧ RunsOnce p talk := by
  unfold answerWith
  split
  · refine Talks.bind (talks_sendOnce session p params server.query fun _ _ => rfl) ?_
      fun _ _ _ h => h
    rintro talk rows _ ⟨rfl, htalk⟩
    rw [← List.append_nil talk] at htalk
    cases rows.mapM (carOfRow p.columns) with
    | error e => exact talks_throw ⟨rfl, htalk⟩
    | ok cars =>
      dsimp only
      cases missing? cars.length op with
      | none => exact talks_pure ⟨rfl, htalk⟩
      | some e => exact talks_throw ⟨rfl, htalk⟩
  · refine Talks.bind (talks_sendOnce session p params server.execute fun _ _ => rfl) ?_
      fun _ _ _ h => h
    rintro talk count _ ⟨rfl, htalk⟩
    rw [← List.append_nil talk] at htalk
    cases missing? count op with
    | none => exact talks_pure ⟨rfl, htalk⟩
    | some e => exact talks_throw ⟨rfl, htalk⟩

/-! ## One request -/

/-- What is said for a request, from one state of a connection to the next one. -/
structure Tells (session : Session) (talk : List Turn) (after : Session) : Prop where
  table : after.table = session.table
  steps : Steps session.table session.kept talk after.kept
  refused : ∀ text failure, .prepare text (.error failure) ∈ talk → after = session

/-- Every turn of a talk that runs a prepared statement runs one that was kept at that moment for the
text of the operation. -/
def RunsKept (table : String) (kept : Kept) (op : Operation) (talk : List Turn) : Prop :=
  ∀ before turn rest p text, talk = before ++ turn :: rest → turn.handle? = some p →
    Sql.HasText table op text → ∃ between, Steps table kept before between ∧ (text, p) ∈ between

theorem tells_of_forall {session : Session} {talk : List Turn}
    (h : ∀ turn ∈ talk, Step session.table session.kept turn session.kept) :
    Tells session talk session :=
  ⟨rfl, .of_forall h, fun _ _ _ => rfl⟩

theorem step_of_handle {table : String} {kept : Kept} {turn : Turn} {p : Prepared}
    (h : turn.handle? = some p) : Step table kept turn kept := by
  cases turn with
  | simple | prepare | start | commit | rollback => cases h
  | execute | query => exact step_of_isQuiet rfl

namespace RunsOnce

variable {p : Prepared} {talk : List Turn}

theorem handle_eq (h : RunsOnce p talk) : ∀ turn ∈ talk, turn.handle? = some p := by
  rcases h with rfl | ⟨turn, rfl, hturn⟩
  · exact nofun
  · rwa [List.forall_mem_singleton]

theorem step (h : RunsOnce p talk) (table : String) (kept : Kept) :
    ∀ turn ∈ talk, Step table kept turn kept :=
  fun turn hturn => step_of_handle (h.handle_eq turn hturn)

theorem split {before rest : List Turn} {turn : Turn} (h : RunsOnce p (before ++ turn :: rest)) :
    before = [] ∧ turn.handle? = some p := by
  have hturn := h.handle_eq turn List.mem_append_cons_self
  rcases h with hnil | ⟨only, honly, _⟩
  · exact absurd hnil (List.append_ne_nil_of_right_ne_nil _ (List.cons_ne_nil _ _))
  · have hlength := congrArg List.length honly
    rw [List.length_append, List.length_cons, List.length_singleton] at hlength
    exact ⟨List.eq_nil_of_length_eq_zero (by omega), hturn⟩

end RunsOnce

section Fetched

variable {session after : Session} {text : String} {talk more : List Turn} {p : Prepared}
  {op : Operation} (hfixed : (Sql.Statement.run op).hasFixedShape = true)
  (htext : Sql.HasText session.table op text)

include hfixed htext

theorem Fetched.tells (h : Fetched session text talk (.ok p) after) (hmore : RunsOnce p more) :
    Tells session (talk ++ more) after := by
  cases h with
  | kept _ h => exact tells_of_forall (hmore.step _ _)
  | new _ h =>
    refine ⟨rfl, .cons (.new op hfixed text htext h p) (.of_forall (hmore.step _ _)), ?_⟩
    intro text' failure hmem
    rcases List.mem_cons.1 hmem with heq | hmem
    · cases heq
    · cases hmore.handle_eq _ hmem

/-- A statement that runs was kept before, or it was prepared and kept in the turn in front. -/
theorem Fetched.runsKept (h : Fetched session text talk (.ok p) after) (hmore : RunsOnce p more) :
    RunsKept session.table session.kept op (talk ++ more) := by
  intro before turn rest q text' hsplit hq htext'
  have hsame : text' = text := (Sql.text_of_hasText htext').trans (Sql.text_of_hasText htext).symm
  rw [hsame]
  -- The one turn that runs a statement is the last one, behind the preparation if there is one.
  cases h with
  | kept _ h =>
    rw [List.nil_append] at hsplit
    rw [hsplit] at hmore
    obtain ⟨rfl, hp⟩ := hmore.split
    cases hp.symm.trans hq
    obtain ⟨front, back, hkept, _⟩ := List.lookup_eq_some_iff.1 h
    refine ⟨session.kept, .nil _, ?_⟩
    rw [hkept]
    exact List.mem_append_cons_self
  | new _ h =>
    cases before with
    | nil =>
      cases (List.cons.inj hsplit).1
      cases hq
    | cons first before =>
      obtain ⟨rfl, hback⟩ : _ ∧ more = before ++ turn :: rest := List.cons.inj hsplit
      rw [hback] at hmore
      obtain ⟨rfl, hp⟩ := hmore.split
      cases hp.symm.trans hq
      exact ⟨_, .cons (.new op hfixed text htext h p) (.nil _), List.mem_cons_self⟩

end Fetched

theorem runsKept_of_handle {table : String} {kept : Kept} {op : Operation} {talk : List Turn}
    (h : ∀ turn ∈ talk, turn.handle? = none) : RunsKept table kept op talk := by
  rintro before turn rest p _ rfl hp
  rw [h turn List.mem_append_cons_self] at hp
  cases hp

/-- A statement of fixed shape is prepared where it is not kept, and runs once. Any other is prepared
anew and is not kept. -/
theorem talks_runStatement (server : Server σ) (session : Session) (op : Operation) :
    Talks session (runStatement server op) (runStatement server.recorded op)
      fun talk _ after => Tells session talk after ∧
        ((Sql.Statement.run op).hasFixedShape = true →
          RunsKept session.table session.kept op talk) := by
  rw [runStatement_eq, runStatement_eq]
  refine talks_compile_bind ?compiled ?uncompiled
  case uncompiled =>
    intro e _
    exact ⟨tells_of_forall nofun, fun _ => runsKept_of_handle nofun⟩
  intro c hc
  have htext : Sql.HasText session.table op c.sql := ⟨c.params, hc⟩
  cases hfixed : (Sql.Statement.run op).hasFixedShape with
  | false =>
    refine talks_send_bind ?_ ?_
    · intro p
      refine (talks_answerWith server session op c.params p).imp ?_
      rintro more result _ ⟨rfl, hmore⟩
      refine ⟨tells_of_forall ?_, nofun⟩
      rw [List.forall_mem_cons]
      exact ⟨.once op hfixed c.sql htext p, hmore.step _ _⟩
    · intro failure
      refine ⟨tells_of_forall ?_, nofun⟩
      rw [List.forall_mem_singleton]
      exact step_of_isQuiet rfl
  | true =>
    refine Talks.bind (talks_prepareKept server session c.sql) ?_ ?_
    · intro talk p between hfetched
      refine (talks_answerWith server between op c.params p).imp ?_
      rintro more result _ ⟨rfl, hmore⟩
      exact ⟨hfetched.tells hfixed htext hmore, fun _ => hfetched.runsKept hfixed htext hmore⟩
    · intro talk e after hfetched
      cases hfetched with
      | refused failure =>
        refine ⟨tells_of_forall ?_, fun _ => runsKept_of_handle ?_⟩
        · rw [List.forall_mem_singleton]
          exact step_of_isQuiet rfl
        · rw [List.forall_mem_singleton]
          rfl

/-! ## Insertions and statements about the table -/

section Insertion

variable {table : String} (kept : Kept) {talk : List Turn}

theorem ChunkTurn.step {turn : Turn} (h : ChunkTurn table turn) : Step table kept turn kept := by
  cases h with
  | prepare chunk c hc answer =>
    cases answer with
    | ok p => exact .once (.insert chunk) rfl c.sql ⟨c.params, hc.compiled⟩ p
    | error failure => exact step_of_isQuiet rfl
  | execute p params answer => exact step_of_isQuiet rfl

/-- An insertion keeps no prepared statement. -/
theorem Transaction.step {chunks : List (List Car)} {result : Except Error Answer}
    (h : Transaction table chunks talk result) : ∀ turn ∈ talk, Step table kept turn kept := by
  have hframed {talk : List Turn} {result : Except Error Nat} {last : Turn}
      (h : Batches table chunks talk result) (hlast : last.isQuiet = true) :
      ∀ turn ∈ (.start (.ok ()) :: talk ++ [last] : List Turn), Step table kept turn kept := by
    rw [List.forall_mem_append, List.forall_mem_cons, List.forall_mem_singleton]
    exact ⟨⟨step_of_isQuiet rfl, fun turn hturn => (h.chunkTurn turn hturn).step kept⟩,
      step_of_isQuiet hlast⟩
  cases h with
  | unopened =>
    rw [List.forall_mem_cons, List.forall_mem_singleton]
    exact ⟨step_of_isQuiet rfl, step_of_isQuiet rfl⟩
  | failed talk e h => exact hframed h rfl
  | uncommitted talk count h => exact hframed h rfl
  | committed talk count h => exact hframed h rfl

end Insertion

theorem talks_exec (server : Server σ) (session : Session) (op : Operation) :
    Talks session (exec server op) (exec server.recorded op) fun talk _ after =>
      Tells session talk after ∧ ((Sql.Statement.run op).hasFixedShape = true →
        RunsKept session.table session.kept op talk) := by
  cases op with
  | insert cars =>
    refine (talks_insert server session cars).imp ?_
    rintro talk result _ ⟨rfl, h⟩
    exact ⟨tells_of_forall (h.step _), nofun⟩
  | getById | deleteById | query | updateById => exact talks_runStatement server session _

inductive Announced (table : String) (stmt : Sql.Statement) : List Turn → Except Error Unit → Prop
  | uncompiled (e : Error) : Announced table stmt [] (.error e)
  | failed (c : Sql.Compiled) (h : Sql.compile table [] stmt = .ok c) (failure : Failure) :
    Announced table stmt [.simple c.sql (.error failure)] (.error failure.toError)
  | done (c : Sql.Compiled) (h : Sql.compile table [] stmt = .ok c) :
    Announced table stmt [.simple c.sql (.ok ())] (.ok ())

theorem talks_runSchema (server : Server σ) (session : Session) (stmt : Sql.Statement) :
    Talks session (runSchema server stmt) (runSchema server.recorded stmt)
      fun talk result after => after = session ∧ Announced session.table stmt talk result := by
  refine talks_compile_bind ?_ fun e _ => ⟨rfl, .uncompiled e⟩
  intro c hc
  refine talks_send fun answer => ?_
  cases answer with
  | ok => exact ⟨rfl, .done c hc⟩
  | error failure => exact ⟨rfl, .failed c hc failure⟩

/-- The text that makes the table is not the one that drops it. -/
theorem step_of_create {table : String} (kept : Kept) {ifNotExists : Bool} {c : Sql.Compiled}
    (hc : Sql.compile table [] (.createTable ifNotExists) = .ok c) :
    Step table kept (.simple c.sql (.ok ())) kept := by
  refine .other _ nofun ?_
  rintro ⟨ifExists, c', hc', hturn⟩
  have htext := (Turn.simple.inj hturn).1
  rw [Sql.sql_of_compile hc, Sql.sql_of_compile hc'] at htext
  cases (Sql.kind_of_text htext).1

theorem Announced.step_of_create {table : String} (kept : Kept) {ifNotExists : Bool}
    {talk : List Turn} {result : Except Error Unit}
    (h : Announced table (.createTable ifNotExists) talk result) :
    ∀ turn ∈ talk, Step table kept turn kept := by
  cases h with
  | uncompiled => exact nofun
  | failed c hc failure =>
    rw [List.forall_mem_singleton]
    exact step_of_isQuiet rfl
  | done c hc =>
    rw [List.forall_mem_singleton]
    exact Postgres.step_of_create kept hc

theorem Announced.not_prepare {table : String} {stmt : Sql.Statement} {talk : List Turn}
    {result : Except Error Unit} (h : Announced table stmt talk result) (text : String)
    (answer : Except Failure Prepared) : .prepare text answer ∉ talk := by
  cases h with
  | uncompiled => exact List.not_mem_nil
  | failed | done =>
    intro hmem
    cases List.mem_singleton.1 hmem

/-- The drop forgets what is kept even when the table cannot be made again. -/
theorem talks_resetTable (server : Server σ) (session : Session) :
    Talks session (resetTable server) (resetTable server.recorded)
      fun talk _ after => Tells session talk after := by
  refine Talks.bind (talks_runSchema server session (.dropTable true)) ?dropped ?kept
  case kept =>
    rintro talk e _ ⟨rfl, hdrop⟩
    refine tells_of_forall ?_
    cases hdrop with
    | uncompiled => exact nofun
    | failed c hc failure =>
      rw [List.forall_mem_singleton]
      exact step_of_isQuiet rfl
  rintro talk _ _ ⟨rfl, hdrop⟩
  -- Between the drop and the new table nothing is sent, and what was kept is given up.
  refine talks_modify_bind (fun session => { session with kept := [] }) ?_
  refine (talks_runSchema server _ (.createTable false)).imp ?_
  rintro more result _ ⟨rfl, hcreate⟩
  refine ⟨rfl, ?_, ?_⟩
  · cases hdrop with
    | done c hc => exact .cons (.dropped _ ⟨true, c, hc, rfl⟩) (.of_forall (hcreate.step_of_create []))
  · intro text failure hmem
    rcases List.mem_append.1 hmem with htalk | hmore
    · exact absurd htalk (hdrop.not_prepare text _)
    · exact absurd hmore (hcreate.not_prepare text _)

theorem talks_pushSchema (server : Server σ) (session : Session) :
    Talks session (runSchema server (.createTable true)) (runSchema server.recorded (.createTable true))
      fun talk _ after => Tells session talk after := by
  refine (talks_runSchema server session (.createTable true)).imp ?_
  rintro talk result _ ⟨rfl, h⟩
  exact tells_of_forall (h.step_of_create _)

end VehicleRecords.Postgres
