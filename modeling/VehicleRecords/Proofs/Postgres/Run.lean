import VehicleRecords.Postgres.Scripted
import VehicleRecords.Proofs.Postgres.Session

/-!
Requests to one connection, one after another, whatever its server answers. The connection keeps at
most one statement for each text of fixed shape (`kept_texts_fixed`), and only since the table was last
dropped (`kept_since_last_drop`).
-/
namespace VehicleRecords.Postgres

variable {σ : Type}

inductive Request where
  | exec (op : Operation)
  | pushSchema
  | reset

/-- The connection and its server after a request, whether it succeeds or not. -/
def Request.next (server : Server σ) (request : Request) (state : Session × σ) : Session × σ :=
  match request with
  | .exec op => ((backend server).exec op state).2
  | .pushSchema => ((backend server).pushSchema state).2
  | .reset => ((backend server).reset state).2

def stateAfter (server : Server σ) (requests : List Request) (state : Session × σ) : Session × σ :=
  requests.foldl (fun state request => request.next server state) state

/-- What a request does on the server it does on the recorded one. -/
theorem next_recorded (server : Server σ) (session : Session) (s : σ) (log : List Turn)
    (request : Request) :
    ∃ talk after t, request.next server (session, s) = (after, t) ∧
      request.next server.recorded (session, (s, log)) = (after, (t, log ++ talk)) ∧
      Tells session talk after ∧
      ∀ op, request = .exec op → (Sql.Statement.run op).hasFixedShape = true →
        RunsKept session.table session.kept op talk := by
  cases request with
  | exec op =>
    obtain ⟨talk, _, after, t, hrun, hrecorded, htells, hruns⟩ := talks_exec server session op s log
    dsimp only [Request.next, backend]
    refine ⟨talk, after, t, by rw [hrun], by rw [hrecorded], htells, ?_⟩
    intro _ hop
    cases hop
    exact hruns
  | pushSchema =>
    obtain ⟨talk, _, after, t, hrun, hrecorded, htells⟩ := talks_pushSchema server session s log
    dsimp only [Request.next, backend]
    refine ⟨talk, after, t, by rw [hrun], by rw [hrecorded], htells, ?_⟩
    intro _ hop
    cases hop
  | reset =>
    obtain ⟨talk, _, after, t, hrun, hrecorded, htells⟩ := talks_resetTable server session s log
    dsimp only [Request.next, backend]
    refine ⟨talk, after, t, by rw [hrun], by rw [hrecorded], htells, ?_⟩
    intro _ hop
    cases hop

/-- What is kept after a run is what its turns leave kept. -/
theorem stateAfter_recorded (server : Server σ) (requests : List Request) (session : Session) (s : σ)
    (log : List Turn) :
    ∃ talk after t, stateAfter server requests (session, s) = (after, t) ∧
      stateAfter server.recorded requests (session, (s, log)) = (after, (t, log ++ talk)) ∧
      after.table = session.table ∧ Steps session.table session.kept talk after.kept := by
  -- A request goes on from whatever the requests before it have left.
  induction requests generalizing session s log with
  | nil => exact ⟨[], session, s, rfl, by rw [List.append_nil]; rfl, rfl, .nil _⟩
  | cons request requests ih =>
    obtain ⟨talk, between, t, hrun, hrecorded, htells, _⟩ := next_recorded server session s log request
    obtain ⟨more, after, u, hrest, hrestRecorded, htable, hsteps⟩ := ih between t (log ++ talk)
    rw [htells.table] at htable hsteps
    refine ⟨talk ++ more, after, u, ?_, ?_, htable, htells.steps.append hsteps⟩
    · rw [stateAfter, List.foldl_cons, hrun]
      exact hrest
    · rw [stateAfter, List.foldl_cons, hrecorded, ← List.append_assoc]
      exact hrestRecorded

/-- However requests follow one another and whatever the server answers, a connection keeps no more
than 129 prepared statements: each has the text of the look-up by id, of the deletion by id or of the
update of one set of columns, whatever the id and the values are, and none has the text of a query or
of an insertion. -/
theorem kept_texts_fixed (server : Server σ) (table : String) (start : σ) (requests : List Request) :
    ∃ session s, stateAfter server requests ({ table }, start) = (session, s) ∧
      session.kept.length ≤ 129 ∧ (session.kept.map Prod.fst).Nodup ∧
      (∀ entry ∈ session.kept, Sql.FixedText table entry.1) ∧
      (∀ filter page text, Sql.HasText table (.query filter page) text →
        text ∉ session.kept.map Prod.fst) ∧
      ∀ cars text, Sql.HasText table (.insert cars) text → text ∉ session.kept.map Prod.fst := by
  obtain ⟨_, session, s, hrun, _, _, hsteps⟩ :=
    stateAfter_recorded server requests { table } start []
  have htidy := hsteps.tidy tidy_nil
  have hfixed {op : Operation} {text : String} (htext : Sql.HasText table op text)
      (hmem : text ∈ session.kept.map Prod.fst) : (Sql.Statement.run op).hasFixedShape = true := by
    obtain ⟨entry, hentry, rfl⟩ := List.mem_map.1 hmem
    exact htidy.hasFixedShape hentry htext
  refine ⟨session, s, hrun, htidy.length_le, htidy.nodup, ?_, ?_, ?_⟩
  · intro entry hentry
    obtain ⟨op, hop, htext⟩ := htidy.fixed entry hentry
    exact Sql.fixedText_of_hasText hop htext
  · intro filter page text htext hmem
    exact Bool.false_ne_true (hfixed htext hmem)
  · intro cars text htext hmem
    exact Bool.false_ne_true (hfixed htext hmem)

/-- Six requests, of which two pairs have the same text. -/
def visits : List Request :=
  [.exec (.getById 1), .exec (.updateById 3 { year := some 1999 }), .exec (.query [] ⟨0, 20⟩),
    .exec (.insert [{}]), .exec (.updateById 4 { year := some 7 }), .exec (.getById 2)]

def answering : ScriptedServer := { script := { affected := 1 } }

/-- The query and the insertion are prepared too, but only two statements are kept. -/
theorem kept_after_visits :
    ∃ session s, stateAfter ScriptedServer.server visits ({ table := "cars" }, answering) =
        (session, s) ∧ s.prepared = 4 ∧ session.kept.length = 2 ∧
      ∀ entry ∈ session.kept, Sql.FixedText "cars" entry.1 := by
  obtain ⟨session, s, hrun, _, _, hfixed, _⟩ :=
    kept_texts_fixed ScriptedServer.server "cars" answering visits
  have hcounts : (fun state => state.2.prepared = 4 ∧ state.1.kept.length = 2)
      (stateAfter ScriptedServer.server visits ({ table := "cars" }, answering)) := by
    decide +kernel
  rw [hrun] at hcounts
  exact ⟨session, s, hrun, hcounts.1, hcounts.2, hfixed⟩

/-- At every point of a run each prepared statement that is kept was prepared for its own text after the
last successful drop of the table, and between two such drops a text of fixed shape is prepared once at
most. Whatever is asked next, an operation of fixed shape runs only what was prepared for its text since
the last drop, and a failed preparation leaves the connection as it was. -/
theorem kept_since_last_drop (server : Server σ) (table : String) (start : σ)
    (requests : List Request) :
    ∃ session s log, stateAfter server requests ({ table }, start) = (session, s) ∧
      stateAfter server.recorded requests ({ table }, (start, [])) = (session, (s, log)) ∧
      (∀ entry ∈ session.kept, PreparedSince table entry.1 entry.2 log) ∧
      (∀ before span rest stmt c, log = before ++ (span ++ rest) →
        (∀ turn ∈ span, ¬ turn.Drops table) → stmt.hasFixedShape = true →
        Sql.compile table [] stmt = .ok c → span.countP (Turn.prepares c.sql) ≤ 1) ∧
      ∀ request : Request, ∃ talk after t, request.next server (session, s) = (after, t) ∧
        request.next server.recorded (session, (s, log)) = (after, (t, log ++ talk)) ∧
        (∀ text failure, .prepare text (.error failure) ∈ talk → after = session) ∧
        ∀ op text before turn rest p, request = .exec op →
          (Sql.Statement.run op).hasFixedShape = true → Sql.HasText table op text →
          talk = before ++ turn :: rest → turn.handle? = some p →
          PreparedSince table text p (log ++ before) := by
  obtain ⟨log, session, s, hrun, hrecorded, htable, hsteps⟩ :=
    stateAfter_recorded server requests { table } start []
  rw [List.nil_append] at hrecorded
  have hsince : ∀ entry ∈ session.kept, PreparedSince table entry.1 entry.2 ([] ++ log) :=
    hsteps.preparedSince nofun
  refine ⟨session, s, log, hrun, hrecorded, hsince, ?_, ?_⟩
  · rintro before span rest stmt c rfl hdrop hfixed hc
    exact hsteps.prepares_le_one tidy_nil hdrop hfixed hc
  · -- What runs was kept before the request, or was prepared by it.
    intro request
    obtain ⟨talk, after, t, hnext, hnextRecorded, htells, hruns⟩ :=
      next_recorded server session s log request
    refine ⟨talk, after, t, hnext, hnextRecorded, htells.refused, ?_⟩
    intro op text before turn rest p hop hfixed htext hsplit hp
    rw [htable] at hruns
    obtain ⟨between, hbetween, hmem⟩ := hruns op hop hfixed before turn rest p text hsplit hp htext
    exact hbetween.preparedSince hsince _ hmem

/-- A reset that drops the table and cannot make it again, between look-ups. -/
def interrupted : List Request := [.exec (.getById 1), .reset, .exec (.getById 2), .exec (.getById 3)]

def dropping : ScriptedServer :=
  { script := { createError := some { code := "42501", message := "permission denied" } } }

/-- The text is prepared again after the drop, and only the second statement is kept. -/
theorem kept_after_interrupted :
    ∃ session s log, stateAfter ScriptedServer.server.recorded interrupted
        ({ table := "cars" }, (dropping, [])) = (session, (s, log)) ∧
      session.kept.map (·.2.number) = [1] ∧
      log.countP (Turn.prepares ((Sql.Statement.run (.getById 1)).text "cars")) = 2 ∧
      ∀ entry ∈ session.kept, PreparedSince "cars" entry.1 entry.2 log := by
  obtain ⟨session, s, log, _, hrecorded, hsince, _⟩ :=
    kept_since_last_drop ScriptedServer.server "cars" dropping interrupted
  have hcounts : (fun state => state.1.kept.map (·.2.number) = [1] ∧
        state.2.2.countP (Turn.prepares ((Sql.Statement.run (.getById 1)).text "cars")) = 2)
      (stateAfter ScriptedServer.server.recorded interrupted ({ table := "cars" }, (dropping, []))) := by
    decide +kernel
  rw [hrecorded] at hcounts
  exact ⟨session, s, log, hrecorded, hcounts.1, hcounts.2, hsince⟩

end VehicleRecords.Postgres
