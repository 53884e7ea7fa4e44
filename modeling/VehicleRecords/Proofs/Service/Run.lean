import VehicleRecords.Proofs.Store.Exec

/-!
Runs of a service: calls one after another, whatever the registry answers and whatever the checks
say in the meantime. A store in memory that is reached from the empty one holds no registration
number twice and its ids grow (`records_of_reached`).
-/
namespace VehicleRecords.Service

variable {σ : Type}

inductive Call where
  | addCars (regNums : List String)
  | getCar (id : Int64)
  | listCars (filter : Filter) (pagination : Pagination)
  | editCar (id : Int64) (patch : CarPatch)
  | deleteCar (id : Int64)
  | pushSchema
  | reset

inductive Reply where
  | added (count : Nat)
  | car (found : Car)
  | cars (found : List Car)
  | done

namespace Call

def run (s : Service σ) : Call → StoreM σ Reply
  | addCars regNums => .added <$> s.addCars regNums
  | getCar id => .car <$> s.getCar id
  | listCars filter pagination => .cars <$> s.listCars filter pagination
  | editCar id patch => (fun _ => .done) <$> s.editCar id patch
  | deleteCar id => (fun _ => .done) <$> s.deleteCar id
  | pushSchema => (fun _ => .done) <$> s.backend.pushSchema
  | reset => (fun _ => .done) <$> s.backend.reset

/-- How many records were inserted since the last reset once the call has come to `result`. -/
def insertedAfter (before : Nat) : Call → Except Error Reply → Nat
  | reset, .ok _ => 0
  | _, .ok (.added count) => before + count
  | _, _ => before

end Call

/-- The store comes from `start` to `state` by calls of services that share it and may differ in
their registries, checks and policies, so a call may bring in any batch of records. Since the last
reset `inserted` records were put in. -/
inductive Reached (b : Backend σ) (start : σ) : (inserted : Nat) → (state : σ) → Prop
  | start : Reached b start 0 start
  | call {inserted : Nat} {state : σ} (h : Reached b start inserted state) (s : Service σ)
      (hs : s.backend = b) (c : Call) :
      Reached b start (c.insertedAfter inserted (c.run s state).1) (c.run s state).2

open Store LoggedMemory

namespace Call

theorem insertedAfter_error (before : Nat) (c : Call) (e : Error) :
    c.insertedAfter before (.error e) = before := by
  cases c <;> rfl

theorem run_cases_of_carriesOut {α : Type} {s : Service LoggedMemory} {c : Call} {op : Operation}
    {read : Answer → Except Error α} {run : StoreM LoggedMemory α} {f : α → Reply} {before : Nat}
    (m : LoggedMemory) (hc : c.run s = f <$> run) (h : CarriesOut op read run)
    (hcount : ∀ answer a, (m.memory.run op).1 = .ok answer → read answer = .ok a →
      c.insertedAfter before (.ok (f a)) = before + m.memory.added op) :
    ((c.run s m).2.memory = m.memory ∧ c.insertedAfter before (c.run s m).1 = before) ∨
    ∃ op, (c.run s m).2.memory = (m.memory.run op).2 ∧
      c.insertedAfter before (c.run s m).1 = before + m.memory.added op := by
  rw [hc, map_eq_pure_bind, StoreM.bind_apply]
  -- A failure neither changes the records nor adds to the count.
  rcases h m with ⟨e, t, hrun, ht⟩ | ⟨answer, a, t, hrun, hop, ha⟩
  · rw [hrun]
    exact .inl ⟨ht, insertedAfter_error before c e⟩
  · rw [hrun]
    refine .inr ⟨op, ?_, hcount answer a (by rw [hop]) ha⟩
    rw [hop]
    rfl

/-- A call that does not reset the store changes the records by one operation at most. -/
theorem run_cases_of_ne_reset (s : Service LoggedMemory) (hs : s.backend = LoggedMemory.backend)
    {c : Call} (hc : c ≠ .reset) (m : LoggedMemory) (before : Nat) :
    ((c.run s m).2.memory = m.memory ∧ c.insertedAfter before (c.run s m).1 = before) ∨
    ∃ op, (c.run s m).2.memory = (m.memory.run op).2 ∧
      c.insertedAfter before (c.run s m).1 = before + m.memory.added op := by
  have hexec := exec_of_backend hs
  -- Only an insertion adds to the count; it answers with the number that it adds.
  cases c with
  | addCars regNums =>
    rcases addCars_cases s hexec regNums m with ⟨e, hrun⟩ | ⟨cars, _, hcars⟩
    · left
      rw [run, map_eq_pure_bind, StoreM.bind_apply, hrun]
      exact ⟨rfl, rfl⟩
    · refine run_cases_of_carriesOut m rfl hcars fun answer a hanswer ha => ?_
      cases hanswer
      cases ha
      rfl
  | getCar id =>
    exact run_cases_of_carriesOut m rfl (getCar_carriesOut s hexec id) fun _ _ _ _ => rfl
  | listCars filter pagination =>
    exact run_cases_of_carriesOut m rfl (listCars_carriesOut s hexec filter pagination)
      fun _ _ _ _ => rfl
  | editCar id patch =>
    rcases editCar_cases s hexec id patch with ⟨e, hrun⟩ | hedit
    · left
      rw [run, hrun]
      exact ⟨rfl, rfl⟩
    · exact run_cases_of_carriesOut m rfl hedit fun _ _ _ _ => rfl
  | deleteCar id =>
    exact run_cases_of_carriesOut m rfl (deleteCar_carriesOut s hexec id) fun _ _ _ _ => rfl
  | pushSchema =>
    rw [run, hs]
    exact .inl ⟨rfl, rfl⟩
  | reset => exact absurd rfl hc

/-- A call changes the records by one operation at most, unless it resets the store. -/
theorem run_cases (s : Service LoggedMemory) (hs : s.backend = LoggedMemory.backend) (c : Call)
    (m : LoggedMemory) (before : Nat) :
    ((c.run s m).2.memory = {} ∧ c.insertedAfter before (c.run s m).1 = 0) ∨
    ((c.run s m).2.memory = m.memory ∧ c.insertedAfter before (c.run s m).1 = before) ∨
    ∃ op, (c.run s m).2.memory = (m.memory.run op).2 ∧
      c.insertedAfter before (c.run s m).1 = before + m.memory.added op := by
  by_cases hc : c = .reset
  · subst hc
    rw [run, hs]
    exact .inl ⟨rfl, rfl⟩
  · exact .inr (run_cases_of_ne_reset s hs hc m before)

end Call

/-- By induction on the run, a step for each call. -/
theorem consistent_of_reached {inserted : Nat} {m : LoggedMemory}
    (h : Reached LoggedMemory.backend {} inserted m) (hn : inserted < 2147483648) :
    m.memory.Consistent inserted := by
  -- A call is an operation of the store, which keeps the invariant, or a reset, which begins anew.
  induction h with
  | start => exact Memory.consistent_empty
  | @call before state _ s hs c ih =>
    rcases c.run_cases s hs state before with ⟨hm, hk⟩ | ⟨hm, hk⟩ | ⟨op, hm, hk⟩
    · rw [hm, hk]
      exact Memory.consistent_empty
    · rw [hk] at hn
      rw [hm, hk]
      exact ih hn
    · rw [hk] at hn
      rw [hm, hk]
      exact Memory.consistent_run (ih (by omega)) op hn

theorem length_addCars (s : Service LoggedMemory) (hs : s.backend = LoggedMemory.backend)
    (regNums : List String) (count : Nat) (m m' : LoggedMemory)
    (h : s.addCars regNums m = (.ok count, m')) :
    m'.memory.cars.length = m.memory.cars.length + count := by
  have hexec := exec_of_backend hs
  rcases addCars_cases s hexec regNums m with ⟨e, hrun⟩ | ⟨cars, _, hcars⟩
  · rw [hrun] at h
    cases h
  · rcases hcars m with ⟨e, t, hrun, _⟩ | ⟨answer, a, t, hrun, hop, ha⟩
    · rw [hrun] at h
      cases h
    · rw [hrun] at h
      cases h
      have hanswer : answer = .count (m.memory.insert cars).2 := by
        have := congrArg Prod.fst hop
        cases this
        rfl
      rw [hanswer] at ha
      cases ha
      have hmemory : m'.memory = (m.memory.insert cars).1 := (congrArg Prod.snd hop).symm
      rw [hmemory]
      exact Memory.length_insert m.memory cars

/-- A store reached from the empty one with fewer than `2 ^ 31` insertions since the last reset holds
no registration number twice. Its ids grow, from one up to the last one handed out, and a further
insertion answers by how many records the store grows. -/
theorem records_of_reached {inserted : Nat} {m : LoggedMemory}
    (h : Reached LoggedMemory.backend {} inserted m) (hn : inserted < 2147483648) :
    m.memory.regNums.Nodup ∧ m.memory.ids.Pairwise (· < ·) ∧
    (∀ id ∈ m.memory.ids, 1 ≤ id ∧ id ≤ m.memory.lastId) ∧
    ∀ s : Service LoggedMemory, s.backend = LoggedMemory.backend → ∀ regNums count m',
      s.addCars regNums m = (.ok count, m') →
        m'.memory.cars.length = m.memory.cars.length + count := by
  have hm := consistent_of_reached h hn
  refine ⟨hm.unique, hm.increasing, fun id hid => ⟨hm.positive id hid, hm.issued id hid⟩, ?_⟩
  intro s hs regNums count m' hadd
  exact length_addCars s hs regNums count m m' hadd

def permissive (b : Backend σ) : Service σ where
  backend := b
  lookup regNum := .ok { regNum }
  validator := ⟨anyText, anyText, anyText, anyText, anyText, anyText⟩
  currentYear := 65535
where
  anyText : Matcher := ⟨"", fun _ => true⟩

/-- A double within a batch is refused, and the number that an edit sets free can be used again. -/
theorem records_after_doubles :
    ∃ m : LoggedMemory, Reached LoggedMemory.backend {} 3 m ∧ 3 < 2147483648 ∧
      m.memory.cars.map (fun car => (car.id, car.regNum)) = [(1, "C3"), (3, "A1")] ∧
      m.memory.regNums.Nodup ∧ m.memory.ids.Pairwise (· < ·) ∧
      (∀ id ∈ m.memory.ids, 1 ≤ id ∧ id ≤ m.memory.lastId) ∧
      ∀ s : Service LoggedMemory, s.backend = LoggedMemory.backend → ∀ regNums count m',
        s.addCars regNums m = (.ok count, m') →
          m'.memory.cars.length = m.memory.cars.length + count := by
  have hadd : Reached LoggedMemory.backend {} _ _ :=
    Reached.start.call (permissive LoggedMemory.backend) rfl (.addCars ["A1", "B2", "A1"])
  have hedit := hadd.call (permissive LoggedMemory.backend) rfl
    (.editCar 1 { regNum := some "C3" })
  have hdelete := hedit.call (permissive LoggedMemory.backend) rfl (.deleteCar 2)
  have hagain : Reached LoggedMemory.backend {} 3 _ :=
    hdelete.call (permissive LoggedMemory.backend) rfl (.addCars ["C3", "A1"])
  exact ⟨_, hagain, by decide, by decide, records_of_reached hagain (by decide)⟩

end VehicleRecords.Service
