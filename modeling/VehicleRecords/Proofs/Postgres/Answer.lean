import VehicleRecords.Proofs.Postgres.Session
import VehicleRecords.Proofs.Store.Outcome

/-!
What a connection answers, whatever the server does. A successful operation has an answer of its own
kind, and a missing record is noticed by the operations that need one (`ensures_exec`); the count of
an update or a deletion is the number of rows that the server affected, and at least one
(`exec_ok_iff_affects`).
-/
namespace VehicleRecords

/-- What an operation is answered with when it succeeds: a count of the rows that it wrote, at least
one where a record was named, or the records that it found, at least one again. -/
def Operation.Yields : Operation → Answer → Prop
  | .insert _, answer => ∃ n, answer = .count n
  | .getById _, answer => ∃ car rest, answer = .cars (car :: rest)
  | .query .., answer => ∃ found, answer = .cars found
  | .updateById .., answer | .deleteById _, answer => ∃ n, answer = .count n ∧ 1 ≤ n

/-- The kind of an answer is the one that the statement says. -/
theorem Operation.Yields.isCars_eq {op : Operation} {answer : Answer} (h : op.Yields answer) :
    answer.isCars = (Sql.Statement.run op).returnsRows := by
  cases op with
  | insert cars =>
    obtain ⟨n, rfl⟩ := h
    rfl
  | getById id =>
    obtain ⟨car, rest, rfl⟩ := h
    rfl
  | query filter pagination =>
    obtain ⟨found, rfl⟩ := h
    rfl
  | updateById | deleteById =>
    obtain ⟨n, rfl, _⟩ := h
    rfl

namespace Postgres

open StoreM (Ensures)

variable {σ α : Type}

/-- What an operation fails with: a plain error, or the record that it names is missing. -/
def Refuses (op : Operation) (e : Error) : Prop :=
  e.Plain ∨ ∃ id, Targets id op ∧ e = .noSuchCar id

/-! ## Rows and requests -/

/-- No failure of a server says that a record is missing. -/
theorem plain_failure (failure : Failure) : failure.toError.Plain := by
  cases failure with
  | bind e => exact Error.plain_of_kind rfl (by decide)
  | client text => exact Error.plain_of_kind rfl (by decide)
  | server e =>
    rw [Failure.toError]
    split
    · exact Error.plain_of_kind rfl (by decide)
    · split
      · exact Error.plain_of_kind rfl (by decide)
      · exact Error.plain_of_kind rfl (by decide)

theorem raises_cell (columns : Columns) (cells : Cells) (name : String) (expects : SqlType → Bool) :
    Raises Error.Plain (cell columns cells name expects) := by
  rw [cell]
  split
  · exact Raises.throw (plain_failure _)
  · split
    · split
      · exact Raises.pure _
      · exact Raises.throw (plain_failure _)
    · exact Raises.throw (plain_failure _)

theorem raises_integerCell (columns : Columns) (cells : Cells) (name : String) :
    Raises Error.Plain (integerCell columns cells name) := by
  refine Raises.bind (raises_cell _ _ _ _) fun bytes => ?_
  split
  · exact Raises.pure _
  · exact Raises.throw (plain_failure _)

theorem raises_textCell (columns : Columns) (cells : Cells) (name : String) :
    Raises Error.Plain (textCell columns cells name) := by
  refine Raises.bind (raises_cell _ _ _ _) fun bytes => ?_
  split
  · exact Raises.pure _
  · exact Raises.throw (plain_failure _)

theorem plain_yearOutOfRange (year : Int) :
    (Error.adhoc ("stored year out of range: " ++ toString year)).Plain := by
  have hfirst (expected : String) (h : expected.toList.head? ≠ some 's') :
      "stored year out of range: " ++ toString year ≠ expected := by
    rintro rfl
    rw [String.toList_append] at h
    exact h rfl
  exact Error.plain_adhoc (hfirst _ (by decide)) (hfirst _ (by decide))

theorem raises_carOfRow (columns : Columns) (cells : Cells) :
    Raises Error.Plain (carOfRow columns cells) := by
  have htext (c : Column) := raises_textCell columns cells c.name
  refine Raises.bind (raises_integerCell _ _ _) fun year => ?_
  refine Raises.bind (raises_integerCell _ _ _) fun id => ?_
  refine Raises.bind (htext .regNum) fun regNum => ?_
  refine Raises.bind (htext .mark) fun mark => ?_
  refine Raises.bind (htext .model) fun model => ?_
  have howner : Raises Error.Plain (do
      let name ← textCell columns cells Column.ownerName.name
      let surname ← textCell columns cells Column.ownerSurname.name
      let patronymic ← textCell columns cells Column.ownerPatronymic.name
      return (⟨.ofInt id, regNum, mark, model, .ofNat year.toNat, ⟨name, surname, patronymic⟩⟩ : Car)) :=
    Raises.bind (htext .ownerName) fun _ => Raises.bind (htext .ownerSurname) fun _ =>
      Raises.bind (htext .ownerPatronymic) fun _ => Raises.pure _
  dsimp only
  split
  · exact Raises.bind (Raises.throw (plain_yearOutOfRange year)) fun _ => howner
  · exact howner

theorem ensures_send (exchange : Exchange σ α) :
    Ensures (send exchange) (fun _ => True) Error.Plain := by
  refine Ensures.of_cases fun (session, s) => ?_
  rw [send]
  cases exchange s with
  | mk result t =>
    cases result with
    | ok a => exact .inl ⟨a, _, rfl, trivial⟩
    | error failure => exact .inr ⟨_, _, rfl, plain_failure failure⟩

theorem ensures_sendWith (p : Prepared) (params : List Value)
    (run : Prepared → List (Option Bytes) → Exchange σ α) :
    Ensures (sendWith p params run) (fun _ => True) Error.Plain := by
  rw [sendWith]
  split
  · exact ensures_send _
  · exact Ensures.throw (plain_failure _)

theorem ensures_prepareKept (server : Server σ) (sql : String) :
    Ensures (prepareKept server sql) (fun _ => True) Error.Plain := by
  refine Ensures.get_bind fun (session, s) => ?_
  dsimp only
  split
  · exact Ensures.pure trivial
  · refine Ensures.bind (ensures_send _) fun p _ => ?_
    exact Ensures.modify_bind _ (Ensures.pure trivial)

theorem ensures_compile (stmt : Sql.Statement) :
    Ensures (σ := Session × σ) (compile stmt) (fun _ => True) Error.Plain := by
  intro start
  rw [compile_apply]
  exact ⟨fun _ _ => trivial, Sql.raises_compile _ _ _⟩

theorem ensures_orRollback (server : Server σ) {run : SessionM σ α} {P : α → Prop}
    {Q : Error → Prop} (h : Ensures run P Q) : Ensures (orRollback server run) P Q := by
  refine Ensures.of_cases fun start => ?_
  rw [orRollback_apply]
  rcases h.cases start with ⟨a, finish, hrun, ha⟩ | ⟨e, finish, hrun, he⟩
  · rw [hrun]
    exact .inl ⟨a, _, rfl, ha⟩
  · rw [hrun]
    exact .inr ⟨e, _, rfl, he⟩

/-! ## Operations -/

theorem ensures_insertBatches (server : Server σ) (chunks : List (List Car)) :
    Ensures (insertBatches server chunks) (fun _ => True) Error.Plain := by
  induction chunks with
  | nil => exact Ensures.pure trivial
  | cons chunk chunks ih =>
    rw [insertBatches]
    refine Ensures.bind (ensures_compile _) fun c _ => ?_
    refine Ensures.bind (ensures_send _) fun p _ => ?_
    refine Ensures.bind (ensures_sendWith _ _ _) fun count _ => ?_
    exact Ensures.bind ih fun _ _ => Ensures.pure trivial

theorem ensures_insert (server : Server σ) (cars : List Car) :
    Ensures (insert server cars) (Operation.insert cars).Yields Error.Plain := by
  have hsaved : Ensures (saveChunks server (Sql.insertChunks cars)) (fun _ => True) Error.Plain :=
    Ensures.bind (ensures_send _) fun _ _ => ensures_insertBatches server _
  rw [insert_eq]
  refine Ensures.bind (ensures_orRollback server hsaved) fun count _ => ?_
  exact Ensures.bind (ensures_send _) fun _ _ => Ensures.pure ⟨count, rfl⟩

/-- A record is missing when an operation that names one concerns no row. -/
theorem missing?_cases (affected : Nat) (op : Operation) :
    (∃ id, Targets id op ∧ affected = 0 ∧ missing? affected op = some (.noSuchCar id)) ∨
      (missing? affected op = none ∧ ∀ id, Targets id op → 1 ≤ affected) := by
  have hcount {op : Operation} {id : Int64} (hop : Targets id op) (h : missing? affected op =
      if affected = 0 then some (.noSuchCar id) else none) :
      (∃ id, Targets id op ∧ affected = 0 ∧ missing? affected op = some (.noSuchCar id)) ∨
        (missing? affected op = none ∧ ∀ id, Targets id op → 1 ≤ affected) := by
    rw [h]
    split
    · next hzero => exact .inl ⟨id, hop, hzero, rfl⟩
    · next hsome => exact .inr ⟨rfl, fun _ _ => Nat.one_le_iff_ne_zero.2 hsome⟩
  cases op with
  | insert cars => exact .inr ⟨rfl, by rintro id (h | h | ⟨_, h⟩) <;> cases h⟩
  | query filter pagination => exact .inr ⟨rfl, by rintro id (h | h | ⟨_, h⟩) <;> cases h⟩
  | getById id => exact hcount (.inl rfl) rfl
  | deleteById id => exact hcount (.inr (.inl rfl)) rfl
  | updateById id patch => exact hcount (.inr (.inr ⟨patch, rfl⟩)) rfl

/-- The statement of an operation says whether rows or a count come back. -/
theorem ensures_answerWith (server : Server σ) {op : Operation} (hop : ∀ cars, op ≠ .insert cars)
    (params : List Value) (p : Prepared) :
    Ensures (answerWith server op params p) op.Yields (Refuses op) := by
  have hplain (e : Error) (h : e.Plain) : Refuses op e := .inl h
  unfold answerWith
  split
  · next hrows =>
    refine Ensures.bind ((ensures_sendWith _ _ _).imp (fun _ h => h) hplain) fun rows _ => ?_
    split
    · next e he => exact Ensures.throw (hplain e (Raises.mapM (raises_carOfRow _) rows e he))
    · next cars _ =>
      rcases missing?_cases cars.length op with ⟨id, hid, -, hmissing⟩ | ⟨hmissing, hsome⟩
      · rw [hmissing]
        exact Ensures.throw (.inr ⟨id, hid, rfl⟩)
      · rw [hmissing]
        refine Ensures.pure ?_
        cases op with
        | getById id =>
          obtain ⟨car, rest, hcars⟩ := List.exists_cons_of_length_pos (hsome id (.inl rfl))
          exact ⟨car, rest, by rw [hcars]⟩
        | query filter pagination => exact ⟨cars, rfl⟩
        | insert | updateById | deleteById => cases hrows
  · next hrows =>
    refine Ensures.bind ((ensures_sendWith _ _ _).imp (fun _ h => h) hplain) fun count _ => ?_
    rcases missing?_cases count op with ⟨id, hid, -, hmissing⟩ | ⟨hmissing, hsome⟩
    · rw [hmissing]
      exact Ensures.throw (.inr ⟨id, hid, rfl⟩)
    · rw [hmissing]
      refine Ensures.pure ?_
      cases op with
      | insert cars => exact absurd rfl (hop cars)
      | getById | query => exact absurd rfl hrows
      | deleteById id => exact ⟨count, rfl, hsome id (.inr (.inl rfl))⟩
      | updateById id patch => exact ⟨count, rfl, hsome id (.inr (.inr ⟨patch, rfl⟩))⟩

/-- A successful operation on a connection has an answer of its own kind. A failed one has a plain
error, or it names a record and that one is missing. -/
theorem ensures_exec (server : Server σ) (op : Operation) :
    Ensures (exec server op) op.Yields (Refuses op) := by
  have hplain (e : Error) (h : e.Plain) : Refuses op e := .inl h
  have hstatement (hop : ∀ cars, op ≠ .insert cars) :
      Ensures (runStatement server op) op.Yields (Refuses op) := by
    rw [runStatement_eq]
    refine Ensures.bind ((ensures_compile _).imp (fun _ h => h) hplain) fun c _ => ?_
    have hanswer (p : Prepared) (_ : True) := ensures_answerWith server hop c.params p
    dsimp only
    split
    · exact Ensures.bind ((ensures_prepareKept server c.sql).imp (fun _ h => h) hplain) hanswer
    · exact Ensures.bind ((ensures_send _).imp (fun _ h => h) hplain) hanswer
  cases op with
  | insert cars => exact (ensures_insert server cars).imp (fun _ h => h) hplain
  | getById | query | updateById | deleteById => exact hstatement nofun

/-! ## Affected rows -/

def Affects (server : Server σ) (op : Operation) (n : Nat) (start finish : Session × σ) : Prop :=
  ∃ compiled p prepared bytes,
    Sql.compile start.1.table [] (.run op) = .ok compiled ∧
    prepareKept server compiled.sql start = (.ok p, prepared) ∧
    encodeParams p 0 compiled.params = .ok bytes ∧ finish.1 = prepared.1 ∧
    server.execute p bytes prepared.2 = (.ok n, finish.2)

def Changes (id : Int64) (op : Operation) : Prop :=
  op = .deleteById id ∨ ∃ patch, op = .updateById id patch

theorem bind_eq_ok {run : SessionM σ α} {β : Type} {next : α → SessionM σ β}
    {start finish : Session × σ} {b : β} (h : (run >>= next) start = (.ok b, finish)) :
    ∃ a between, run start = (.ok a, between) ∧ next a between = (.ok b, finish) := by
  rw [StoreM.bind_apply] at h
  rcases hrun : run start with ⟨result, between⟩
  rw [hrun] at h
  cases result with
  | ok a => exact ⟨a, between, rfl, h⟩
  | error e => cases h

theorem sendWith_eq_ok {p : Prepared} {params : List Value}
    {run : Prepared → List (Option Bytes) → Exchange σ α} {start finish : Session × σ} {a : α}
    (h : sendWith p params run start = (.ok a, finish)) :
    ∃ bytes, encodeParams p 0 params = .ok bytes ∧ finish.1 = start.1 ∧
      run p bytes start.2 = (.ok a, finish.2) := by
  obtain ⟨session, s⟩ := start
  unfold sendWith at h
  cases hbytes : encodeParams p 0 params with
  | error e =>
    rw [hbytes] at h
    cases h
  | ok bytes =>
    rw [hbytes] at h
    dsimp only at h
    rw [send] at h
    rcases hrun : run p bytes s with ⟨result, t⟩
    rw [hrun] at h
    cases result with
    | ok b =>
      cases h
      exact ⟨bytes, rfl, rfl, hrun⟩
    | error failure => cases h

theorem exec_of_changes (server : Server σ) {id : Int64} {op : Operation} (hop : Changes id op) :
    exec server op = (do
      let c ← compile (.run op)
      let p ← prepareKept server c.sql
      let count ← sendWith p c.params server.execute
      if count = 0 then throw (.noSuchCar id) else return .count count) := by
  have hexec : exec server op = runStatement server op ∧
      (Sql.Statement.run op).hasFixedShape = true ∧ (Sql.Statement.run op).returnsRows = false ∧
      ∀ count, missing? count op = if count = 0 then some (.noSuchCar id) else none := by
    rcases hop with rfl | ⟨patch, rfl⟩
    all_goals exact ⟨rfl, rfl, rfl, fun _ => rfl⟩
  obtain ⟨hrun, hshape, hrows, hmissing⟩ := hexec
  rw [hrun, runStatement, hshape, hrows]
  refine bind_congr fun c => bind_congr fun p => bind_congr fun count => ?_
  rw [hmissing]
  by_cases hzero : count = 0
  · rw [if_pos hzero, if_pos hzero]
  · rw [if_neg hzero, if_neg hzero]

/-- An update or a deletion is answered with the number of affected rows, or with the record not found
when there are none. -/
theorem exec_of_affects {server : Server σ} {id : Int64} {op : Operation} (hop : Changes id op)
    {n : Nat} {start finish : Session × σ} (h : Affects server op n start finish) :
    exec server op start =
      (if n = 0 then .error (.noSuchCar id) else .ok (.count n), finish) := by
  obtain ⟨compiled, p, prepared, bytes, hc, hp, hb, hsession, hrun⟩ := h
  obtain ⟨session, t⟩ := finish
  dsimp only at hsession hrun
  subst hsession
  rw [exec_of_changes server hop, bind_of_ok (compile_of_ok hc), bind_of_ok hp,
    bind_of_ok (sendWith_of_ok hb hrun)]
  split <;> rfl

/-- An update and a deletion succeed exactly when the server reports a row, and answer with the number
it reports. -/
theorem exec_ok_iff_affects (server : Server σ) {id : Int64} {op : Operation} (hop : Changes id op)
    (answer : Answer) (start finish : Session × σ) :
    exec server op start = (.ok answer, finish) ↔
      ∃ n, 1 ≤ n ∧ answer = .count n ∧ Affects server op n start finish := by
  constructor
  · intro h
    rw [exec_of_changes server hop] at h
    obtain ⟨c, between, hcompiled, hrest⟩ := bind_eq_ok h
    obtain ⟨p, prepared, hp, hlast⟩ := bind_eq_ok hrest
    obtain ⟨count, counted, hcount, hend⟩ := bind_eq_ok hlast
    obtain ⟨bytes, hbytes, hsession, hrun⟩ := sendWith_eq_ok hcount
    rw [compile_apply, Prod.mk.injEq] at hcompiled
    obtain ⟨hc, rfl⟩ := hcompiled
    split at hend
    · cases hend
    · next hsome =>
      cases hend
      exact ⟨count, Nat.one_le_iff_ne_zero.2 hsome, rfl, c, p, prepared, bytes, hc, hp, hbytes,
        hsession, hrun⟩
  · rintro ⟨n, hn, rfl, h⟩
    rw [exec_of_affects hop h, if_neg (Nat.one_le_iff_ne_zero.1 hn)]

end Postgres

end VehicleRecords
