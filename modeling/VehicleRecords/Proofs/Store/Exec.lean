import VehicleRecords.Proofs.Store.Records
import VehicleRecords.Service

/-!
What each call of a service does to a store in memory. It fails and leaves the records as they are,
or it carries out one operation of the store and answers what it reads in the store's answer.
-/
namespace VehicleRecords

variable {σ α β : Type}

namespace StoreM

theorem bind_apply (run : StoreM σ α) (next : α → StoreM σ β) (s : σ) :
    (run >>= next) s =
      match run s with
      | (.ok a, t) => next a t
      | (.error e, t) => (.error e, t) := by
  simp only [bind, ExceptT.bind, ExceptT.mk, StateT.bind, ExceptT.bindCont]
  cases run s with
  | mk result t => cases result <;> rfl

end StoreM

namespace Store

theorem Memory.run_getById (m : Memory) (id : Int64) : (m.run (.getById id)).2 = m := by
  rw [Memory.run]
  split <;> rfl

namespace LoggedMemory

theorem exec_of_backend {b : Backend LoggedMemory} (h : b = backend) : b.exec = exec := by
  rw [h]
  rfl

theorem exec_cases (op : Operation) (m : LoggedMemory) :
    (∃ e, exec op m = (.error e, m)) ∨ ∃ compiled, exec op m =
      ((m.memory.run op).1, ⟨(m.memory.run op).2, ⟨op, compiled⟩ :: m.log⟩) := by
  rw [exec]
  split
  · next e _ => exact .inl ⟨e, rfl⟩
  · next compiled _ => exact .inr ⟨compiled, rfl⟩

/-- A statement that is not refused is carried out and logged, whatever comes of it. -/
theorem exec_read (op : Operation) (h : (Sql.Statement.run op).verify = .ok ())
    (read : Answer → Except Error α) (m : LoggedMemory) :
    ∃ compiled, (exec op >>= fun answer => (liftM (read answer) : StoreM LoggedMemory α)) m =
      ((m.memory.run op).1.bind read, ⟨(m.memory.run op).2, ⟨op, compiled⟩ :: m.log⟩) := by
  have hcompile : ∃ compiled, Sql.compile "cars" [] (.run op) = .ok compiled := by
    rw [Sql.compile, h]
    exact ⟨_, rfl⟩
  obtain ⟨compiled, hc⟩ := hcompile
  refine ⟨compiled, ?_⟩
  rw [StoreM.bind_apply, exec, hc]
  dsimp only
  cases (m.memory.run op).1 with
  | error e => rfl
  | ok answer =>
    dsimp only [Except.bind]
    cases read answer <;> rfl

/-- The computation fails and leaves the records, or it carries out `op` and answers what `read`
finds in the answer to it. -/
def CarriesOut (op : Operation) (read : Answer → Except Error α) (run : StoreM LoggedMemory α) :
    Prop :=
  ∀ m, (∃ e t, run m = (.error e, t) ∧ t.memory = m.memory) ∨
    ∃ answer a t, run m = (.ok a, t) ∧ m.memory.run op = (.ok answer, t.memory) ∧
      read answer = .ok a

/-- Reading the answer may fail only where nothing was changed. -/
theorem carriesOut_exec (op : Operation) (read : Answer → Except Error α)
    (hread : ∀ m answer e, (Memory.run m op).1 = .ok answer → read answer = .error e →
      (m.run op).2 = m) :
    CarriesOut op read (exec op >>= fun answer => liftM (read answer)) := by
  intro m
  rw [StoreM.bind_apply]
  -- The failures are those of the compiler, of the operation and of the reading, in this order.
  rcases exec_cases op m with ⟨e, hexec⟩ | ⟨compiled, hexec⟩
  · exact .inl ⟨e, m, by rw [hexec], rfl⟩
  · rw [hexec]
    cases hrun : (m.memory.run op).1 with
    | error e => exact .inl ⟨e, _, rfl, Memory.run_error hrun⟩
    | ok answer =>
      cases ha : read answer with
      | error e =>
        refine .inl ⟨e, _, by simp only [ha]; rfl, hread m.memory answer e hrun ha⟩
      | ok a =>
        exact .inr ⟨answer, a, _, by simp only [ha]; rfl, Prod.ext hrun rfl, ha⟩

def readCar (id : Int64) (answer : Answer) : Except Error Car :=
  match answer.toCars with
  | .ok (car :: _) => .ok car
  | .ok [] => .error (.noSuchCar id)
  | .error e => .error e

end LoggedMemory

end Store

namespace Service

open Store LoggedMemory

variable (s : Service LoggedMemory) (hs : s.backend.exec = exec)

include hs

/-- The batch that is inserted consists of the records the registry gave. -/
theorem addCars_cases (regNums : List String) (m : LoggedMemory) :
    (∃ e, s.addCars regNums m = (.error e, m)) ∨
    ∃ cars, resolve s.lookup regNums = .ok cars ∧
      CarriesOut (.insert cars) Answer.toCount (s.addCars regNums) := by
  rw [Service.addCars]
  split
  · exact .inl ⟨_, rfl⟩
  · cases hcars : resolve s.lookup regNums with
    | error e => exact .inl ⟨_, rfl⟩
    | ok cars =>
      refine .inr ⟨cars, rfl, ?_⟩
      dsimp only
      rw [Backend.addCars, hs]
      -- An insertion answers with a count, so reading its answer cannot fail.
      refine carriesOut_exec _ _ fun n answer e hrun ha => ?_
      cases hrun
      cases ha

theorem getCar_eq (id : Int64) :
    s.getCar id = exec (.getById id) >>= fun answer => liftM (readCar id answer) := by
  rw [Service.getCar, Backend.getCar, hs]
  congr 1
  funext answer
  cases answer with
  | count n => rfl
  | cars found => cases found <;> rfl

theorem getCar_carriesOut (id : Int64) :
    CarriesOut (.getById id) (readCar id) (s.getCar id) := by
  -- No car and no answer of cars are failures behind the look-up, which wrote nothing.
  rw [getCar_eq s hs]
  exact carriesOut_exec _ _ fun n _ _ _ _ => n.run_getById id

theorem listCars_carriesOut (filter : Filter) (pagination : Pagination) :
    CarriesOut (.query filter pagination) Answer.toCars (s.listCars filter pagination) := by
  rw [Service.listCars, Backend.listCars, hs]
  exact carriesOut_exec _ _ fun _ _ _ _ _ => rfl

theorem editCar_cases (id : Int64) (patch : CarPatch) :
    (∃ e, s.editCar id patch = throw e) ∨
    CarriesOut (.updateById id patch) (fun _ => .ok ()) (s.editCar id patch) := by
  rw [Service.editCar]
  split
  · exact .inl ⟨_, rfl⟩
  · split
    · exact .inl ⟨_, rfl⟩
    · refine .inr ?_
      rw [Backend.updateCar, hs]
      exact carriesOut_exec _ _ fun _ _ _ _ he => nomatch he

theorem deleteCar_carriesOut (id : Int64) :
    CarriesOut (.deleteById id) (fun _ => .ok ()) (s.deleteCar id) := by
  rw [Service.deleteCar, Backend.deleteCar, hs]
  exact carriesOut_exec _ _ fun _ _ _ _ he => nomatch he

end Service

end VehicleRecords
