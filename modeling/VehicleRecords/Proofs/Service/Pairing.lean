import VehicleRecords.Postgres.Scripted
import VehicleRecords.Proofs.Postgres.Answer
import VehicleRecords.Proofs.Store.Edit
import VehicleRecords.Proofs.Store.IllTyped

namespace VehicleRecords

open StoreM (Ensures)
open Postgres (Refuses Targets Changes Affects ConcernsNoRow)

variable {σ κ α : Type}

namespace Backend

/-- Every operation of the store has an answer of its own kind, a plain error, or the error that the
record it names is missing. -/
structure Paired (b : Backend σ) : Prop where
  exec : ∀ op, Ensures (b.exec op) op.Yields (Refuses op)
  pushSchema : Ensures b.pushSchema (fun _ => True) Error.Plain
  reset : Ensures b.reset (fun _ => True) Error.Plain

/-- The call succeeds when the operation does, with what it reads in the answer. Otherwise it fails
with the operation's own error, which is none of reading an answer. -/
def Reads (exec : StoreM σ Answer) (call : StoreM σ α) (reads : Answer → α → Prop) : Prop :=
  ∀ s, (∃ answer a t, exec s = (.ok answer, t) ∧ call s = (.ok a, t) ∧ reads answer a) ∨
    ∃ e t, exec s = (.error e, t) ∧ call s = (.error e, t) ∧ ¬ e.IsMismatch

/-- What each call of a store reads in the answer to its operation. -/
structure Serves (b : Backend σ) : Prop where
  addCars : ∀ cars, Reads (b.exec (.insert cars)) (b.addCars cars) fun answer n => answer = .count n
  getCar : ∀ id, Reads (b.exec (.getById id)) (b.getCar id) fun answer car =>
    ∃ rest, answer = .cars (car :: rest)
  listCars : ∀ filter page, Reads (b.exec (.query filter page)) (b.listCars filter page)
    fun answer found => answer = .cars found
  updateCar : ∀ id patch, Reads (b.exec (.updateById id patch)) (b.updateCar id patch)
    fun answer _ => ∃ n, answer = .count n ∧ 1 ≤ n
  deleteCar : ∀ id, Reads (b.exec (.deleteById id)) (b.deleteCar id)
    fun answer _ => ∃ n, answer = .count n ∧ 1 ≤ n
  pushSchema : ∀ s e, (b.pushSchema s).1 = .error e → ¬ e.IsMismatch
  reset : ∀ s e, (b.reset s).1 = .error e → ¬ e.IsMismatch

end Backend

theorem Postgres.Refuses.not_mismatch {op : Operation} {e : Error} (h : Refuses op e) :
    ¬ e.IsMismatch := by
  rcases h with hplain | ⟨id, _, rfl⟩
  · exact hplain.noMismatch
  · exact Error.noSuchCar_not_mismatch id

namespace Backend.Paired

variable {b : Backend σ}

theorem reads (h : b.Paired) (op : Operation) {next : Answer → StoreM σ α}
    {reads : Answer → α → Prop}
    (hnext : ∀ answer t, op.Yields answer → ∃ a, next answer t = (.ok a, t) ∧ reads answer a) :
    Reads (b.exec op) (b.exec op >>= next) reads := by
  intro s
  rw [StoreM.bind_apply]
  rcases (h.exec op).cases s with ⟨answer, t, hexec, hyields⟩ | ⟨e, t, hexec, hrefuses⟩
  · obtain ⟨a, ha, hreads⟩ := hnext answer t hyields
    rw [hexec]
    exact .inl ⟨answer, a, t, rfl, ha, hreads⟩
  · rw [hexec]
    exact .inr ⟨e, t, rfl, rfl, hrefuses.not_mismatch⟩

theorem serves (h : b.Paired) : b.Serves where
  addCars cars := by
    refine h.reads _ ?_
    rintro _ t ⟨n, rfl⟩
    exact ⟨n, rfl, rfl⟩
  getCar id := by
    refine h.reads _ ?_
    rintro _ t ⟨car, rest, rfl⟩
    exact ⟨car, rfl, rest, rfl⟩
  listCars filter page := by
    refine h.reads _ ?_
    rintro _ t ⟨found, rfl⟩
    exact ⟨found, rfl, rfl⟩
  updateCar id patch := h.reads _ fun answer t hyields => ⟨(), rfl, hyields⟩
  deleteCar id := h.reads _ fun answer t hyields => ⟨(), rfl, hyields⟩
  pushSchema s e he := ((h.pushSchema s).2 e he).noMismatch
  reset s e he := ((h.reset s).2 e he).noMismatch

end Backend.Paired

/-! ## The store in memory -/

namespace Store

/-- What the store says of a condition it cannot judge is about no record. -/
theorem Unjudged.plain {e : Error} (h : Unjudged e) : e.Plain := by
  rcases h with rfl | ⟨text, rfl⟩
  · exact Error.plain_adhoc (by decide) (by decide)
  · exact Error.plain_foreign text

/-- What the store answers to an operation, whatever it holds. -/
theorem Memory.run_cases (m : Memory) (op : Operation) :
    (∃ answer, (m.run op).1 = .ok answer ∧ op.Yields answer) ∨
      ∃ e, (m.run op).1 = .error e ∧ Refuses op e := by
  cases op with
  | insert cars => exact .inl ⟨_, rfl, _, rfl⟩
  | getById id =>
    rw [run_getById_eq]
    split
    · next car _ => exact .inl ⟨_, rfl, car, [], rfl⟩
    · exact .inr ⟨_, rfl, .inr ⟨id, .inl rfl, rfl⟩⟩
  | query filter page =>
    rw [run]
    dsimp only
    cases hselect : select filter m.cars with
    | ok found => exact .inl ⟨_, rfl, _, rfl⟩
    | error e => exact .inr ⟨e, rfl, .inl (raises_select filter m.cars e hselect).plain⟩
  | updateById id patch =>
    rw [run]
    split
    · exact .inr ⟨_, rfl, .inl (Error.plain_of_kind rfl (by decide))⟩
    · split
      · exact .inl ⟨_, rfl, 1, rfl, Nat.le_refl 1⟩
      · exact .inr ⟨_, rfl, .inr ⟨id, .inr (.inr ⟨patch, rfl⟩), rfl⟩⟩
  | deleteById id =>
    rw [run]
    split
    · exact .inl ⟨_, rfl, 1, rfl, Nat.le_refl 1⟩
    · exact .inr ⟨_, rfl, .inr ⟨id, .inr (.inl rfl), rfl⟩⟩

theorem LoggedMemory.ensures_exec (op : Operation) : Ensures (exec op) op.Yields (Refuses op) := by
  refine Ensures.of_cases fun s => ?_
  rw [exec]
  split
  · next e he => exact .inr ⟨e, s, rfl, .inl (Sql.raises_compile _ _ _ e he)⟩
  · dsimp only
    rcases s.memory.run_cases op with ⟨answer, hanswer, hyields⟩ | ⟨e, he, hrefuses⟩
    · exact .inl ⟨answer, _, by rw [hanswer], hyields⟩
    · exact .inr ⟨e, _, by rw [he], hrefuses⟩

end Store

/-! ## Stores behind a pool -/

theorem ensures_onStore {run : StoreM σ α} {P : α → Prop} {Q : Error → Prop}
    (h : Ensures run P Q) : Ensures (Backend.stateless.onStore (κ := κ) run) P Q :=
  fun (_, s) => h s

/-- A connection that cannot be had is an error of the pool. -/
theorem ensures_lend (c : Connector σ κ) {run : StoreM (κ × σ) α} {P : α → Prop}
    {Q : Error → Prop} (h : Ensures run P Q) (hQ : ∀ e : Error, e.Plain → Q e) :
    Ensures (Pool.lend c run) P Q := by
  have htake (idle : List κ) (s : σ) (e : Error) (rest : List κ × σ)
      (htaken : Pool.take c idle s = (.error e, rest)) : e.Plain := by
    cases idle with
    | cons k idle => cases htaken
    | nil =>
      rw [Pool.take] at htaken
      split at htaken
      · cases htaken
      · cases htaken
        exact Error.plain_of_kind rfl (by decide)
  refine Ensures.of_cases fun (pool, s) => ?_
  rw [Pool.lend]
  split
  · split
    · next k idle t _ =>
      rcases h.cases (k, t) with ⟨a, u, hrun, ha⟩ | ⟨e, u, hrun, he⟩
      · rw [hrun]
        exact .inl ⟨a, _, rfl, ha⟩
      · rw [hrun]
        exact .inr ⟨e, _, rfl, he⟩
    · next e idle t htaken => exact .inr ⟨e, _, rfl, hQ e (htake _ _ e _ htaken)⟩
  · exact .inr ⟨_, _, rfl, hQ _ (Error.plain_of_kind rfl (by decide))⟩

/-- The stores there are: a connection to a database server, the records in memory, and pools of
such connections. -/
inductive Opened : {σ : Type} → Backend σ → Prop
  | database {σ : Type} (server : Postgres.Server σ) : Opened (Postgres.backend server)
  | memory : Opened Store.LoggedMemory.backend
  | stateless {σ κ : Type} {b : Backend σ} (h : Opened b) : Opened (b.stateless (κ := κ))
  | pool {σ κ : Type} (c : Connector σ κ) {b : Backend (κ × σ)} (h : Opened b) :
    Opened (Pool.backend c b)

theorem Postgres.paired_backend (server : Postgres.Server σ) : (backend server).Paired := by
  have hschema (stmt : Sql.Statement) :
      Ensures (runSchema server stmt) (fun _ => True) Error.Plain :=
    Ensures.bind (ensures_compile stmt) fun _ _ => ensures_send _
  refine ⟨ensures_exec server, hschema _, ?_⟩
  exact Ensures.bind (hschema _) fun _ _ => Ensures.modify_bind _ (hschema _)

/-- By induction on the ways to put a store together. -/
theorem Opened.paired {b : Backend σ} (h : Opened b) : b.Paired := by
  induction h with
  | database server => exact Postgres.paired_backend server
  | memory =>
    exact ⟨Store.LoggedMemory.ensures_exec, Ensures.pure trivial,
      Ensures.of_cases fun s => .inl ⟨(), _, rfl, trivial⟩⟩
  | stateless _ ih =>
    exact ⟨fun op => ensures_onStore (ih.exec op), ensures_onStore ih.pushSchema,
      ensures_onStore ih.reset⟩
  | pool c _ ih =>
    exact ⟨fun op => ensures_lend c (ih.exec op) fun _ h => .inl h,
      ensures_lend c ih.pushSchema fun _ h => h, ensures_lend c ih.reset fun _ h => h⟩

/-- An operation that succeeds is answered in its kind: with a count for the statements that return no
rows, and with records for the others. A look-up finds a record, and an update or a deletion counts
one at least, on a connection to a server as many as the server affected. A missing record is told with
the id of the record that the operation names, and by no operation that names none. So every call reads
the answer that it gets, and whatever fails is the operation itself. -/
theorem answers_in_kind {b : Backend σ} (h : Opened b) :
    (∀ op s answer, (b.exec op s).1 = .ok answer →
      op.Yields answer ∧ answer.isCars = (Sql.Statement.run op).returnsRows) ∧
    (∀ op s e, (b.exec op s).1 = .error e → e.is .recordNotFound = true →
      ∃ id, Targets id op ∧ e = Cause.recordNotFound ("car_id=" ++ toString id.toInt)) ∧
    b.Serves ∧
    ∀ {τ : Type} (server : Postgres.Server τ) (id : Int64) (op : Operation)
      (start finish : Postgres.Session × τ),
      (Changes id op → ∀ answer, Postgres.exec server op start = (.ok answer, finish) ↔
        ∃ n, 1 ≤ n ∧ answer = .count n ∧ Affects server op n start finish) ∧
      (Targets id op → ConcernsNoRow server op start finish →
        ∃ e : Error, Postgres.exec server op start = (.error e, finish) ∧
          e.is .recordNotFound = true ∧
          e = Cause.recordNotFound ("car_id=" ++ toString id.toInt)) := by
  have hpaired := h.paired
  refine ⟨?_, ?_, hpaired.serves, ?_⟩
  · intro op s answer hanswer
    have hyields := (hpaired.exec op s).1 answer hanswer
    exact ⟨hyields, hyields.isCars_eq⟩
  · intro op s e he hmissing
    rcases (hpaired.exec op s).2 e he with hplain | htargets
    · rw [hplain.found] at hmissing
      cases hmissing
    · exact htargets
  · intro τ server id op start finish
    exact ⟨fun hop answer => Postgres.exec_ok_iff_affects server hop answer start finish,
      fun hop hnone => ⟨.noSuchCar id, Postgres.exec_of_no_row hop hnone, rfl, rfl⟩⟩

open Postgres.ScriptedServer (connector server) in
def freePool : AnsweringPool Postgres.Session := ⟨{ maxSize := 1 }, .inl Nat.one_pos⟩

open Postgres.ScriptedServer (connector server) in
/-- Behind a pool, a deletion of three rows is counted, and one of no row finds the record missing. -/
theorem answers_of_pooled_server :
    Opened (Pool.backend (connector true "cars") (Postgres.backend server)) ∧
    Operation.Yields (.deleteById 7) (.count 3) ∧
    (Answer.count 3).isCars = (Sql.Statement.run (.deleteById 7)).returnsRows ∧
    ∃ e : Error,
      ((Pool.backend (connector true "cars") (Postgres.backend server)).deleteCar 8
        (freePool, {})).1 = .error e ∧
      e.is .recordNotFound = true ∧ (∃ id, Targets id (.deleteById 8) ∧
        e = Cause.recordNotFound ("car_id=" ++ toString id.toInt)) ∧
      e.message = "record not found: car_id=8" := by
  have hopened : Opened (Pool.backend (connector true "cars") (Postgres.backend server)) :=
    .pool _ (.database server)
  obtain ⟨hyields, hmissing, hserves, -⟩ := answers_in_kind hopened
  obtain ⟨hthree, hkind⟩ := hyields (.deleteById 7) (freePool, { script := { affected := 3 } })
    (.count 3) rfl
  have hnone : ((Pool.backend (connector true "cars") (Postgres.backend server)).exec
      (.deleteById 8) (freePool, {})).1 = .error (.noSuchCar 8) := rfl
  refine ⟨hopened, hthree, hkind, .noSuchCar 8, ?_, rfl, hmissing _ _ _ hnone rfl, by decide⟩
  rcases hserves.deleteCar 8 (freePool, {}) with ⟨_, _, _, hexec, _⟩ | ⟨_, _, hexec, hcall, _⟩
  · rw [hexec] at hnone
    cases hnone
  · rw [hexec] at hnone
    cases hnone
    rw [hcall]

end VehicleRecords
