import VehicleRecords.Proofs.FirstFailure
import VehicleRecords.Proofs.Service.Run
import VehicleRecords.Proofs.Sql.Numbering
import VehicleRecords.Proofs.Store.Batch

namespace VehicleRecords.Service

open Store LoggedMemory

/-- The look-ups succeed up to `regNum`, whose look-up fails. -/
def FirstFailure (lookup : String → Except Error Car) (regNums : List String) (regNum : String)
    (cause : Error) : Prop :=
  ∃ before after, regNums = before ++ regNum :: after ∧
    (∀ earlier ∈ before, ∃ car, lookup earlier = .ok car) ∧ lookup regNum = .error cause

def SaysEmpty (e : Error) : Prop :=
  e.is .validation = true ∧ e = Cause.validation "regNums" "must not be empty"

/-- The error names the number that was looked up, and the error of the look-up stands behind it. -/
def BlamesLookup (regNum : String) (cause e : Error) : Prop :=
  e.is .registryLookup = true ∧ e.outermost = .registryLookup regNum ∧ e.behind = cause.chain

theorem saysEmpty_iff (e : Error) :
    SaysEmpty e ↔ e = .validation "regNums" "must not be empty" := by
  constructor
  · exact fun h => h.2
  · rintro rfl
    exact ⟨rfl, rfl⟩

theorem blamesLookup_iff (regNum : String) (cause e : Error) :
    BlamesLookup regNum cause e ↔ e = .registryLookup regNum cause := by
  constructor
  · obtain ⟨outermost, behind⟩ := e
    rintro ⟨_, rfl, rfl⟩
    rfl
  · rintro rfl
    exact ⟨rfl, rfl, rfl⟩

section Resolve

variable {lookup : String → Except Error Car} {n : String} {rest : List String}

theorem resolve_cons_error {cause : Error} (h : lookup n = .error cause) :
    resolve lookup (n :: rest) = .error (.registryLookup n cause) := by
  rw [resolve, h]

theorem resolve_cons_ok {car : Car} (h : lookup n = .ok car) :
    resolve lookup (n :: rest) = (resolve lookup rest).map (car :: ·) := by
  rw [resolve, h]

/-- The first failing look-up decides about the failure. -/
theorem resolve_eq_error_iff (regNums : List String) (e : Error) :
    resolve lookup regNums = .error e ↔
      ∃ regNum cause, FirstFailure lookup regNums regNum cause ∧ e = .registryLookup regNum cause := by
  have hfirst (regNums : List String) (regNum : String) (cause : Error) :
      FirstFailure lookup regNums regNum cause ↔ FailsFirst lookup regNums regNum cause := Iff.rfl
  simp only [hfirst]
  induction regNums with
  | nil =>
    constructor
    · nofun
    · rintro ⟨regNum, cause, h, _⟩
      exact absurd h (failsFirst_nil regNum cause)
  | cons n rest ih =>
    cases hn : lookup n with
    | error cause =>
      rw [resolve_cons_error hn]
      simp only [failsFirst_cons_error hn]
      constructor
      · rintro ⟨rfl⟩
        exact ⟨n, cause, ⟨rfl, rfl⟩, rfl⟩
      · rintro ⟨_, _, ⟨rfl, rfl⟩, rfl⟩
        rfl
    | ok car =>
      rw [resolve_cons_ok hn]
      simp only [failsFirst_cons_ok hn, ← ih]
      cases resolve lookup rest <;> simp [Except.map]

theorem forall₂_of_resolve {regNums : List String} {cars : List Car}
    (h : resolve lookup regNums = .ok cars) :
    List.Forall₂ (fun regNum car => lookup regNum = .ok car) regNums cars := by
  induction regNums generalizing cars with
  | nil =>
    cases h
    exact .nil
  | cons n rest ih =>
    cases hn : lookup n with
    | error cause =>
      rw [resolve_cons_error hn] at h
      cases h
    | ok car =>
      rw [resolve_cons_ok hn] at h
      cases hrest : resolve lookup rest with
      | error e =>
        rw [hrest] at h
        cases h
      | ok more =>
        rw [hrest] at h
        cases h
        exact .cons hn (ih hrest)

/-- There are as many records as numbers. -/
theorem ne_nil_of_resolve {regNums : List String} (hne : regNums ≠ []) {cars : List Car}
    (h : resolve lookup regNums = .ok cars) : cars ≠ [] := by
  rintro rfl
  exact hne (List.length_eq_zero_iff.1 (forall₂_of_resolve h).length_eq)

end Resolve

/-- What a successful addition of registration numbers does: `cars` are their records, `new` those
that were not stored, and `count` is the answer. -/
structure Addition (s : Service LoggedMemory) (regNums : List String) (m : LoggedMemory)
    (cars new : List Car) (count : Nat) (m' : LoggedMemory) : Prop where
  resolved : List.Forall₂ (fun regNum car => s.lookup regNum = .ok car) regNums cars
  executed : ∃ compiled, m'.log = ⟨.insert cars, compiled⟩ :: m.log
  behind : m'.memory.cars = m.memory.cars ++ new
  once : ∀ car ∈ cars, m'.memory.regNums.count car.regNum = 1
  counted : count = ((cars.map (·.regNum)).toFinset \ m.memory.regNums.toFinset).card
  first : ∀ car ∈ new, ∃ given, cars.find? (·.regNum == car.regNum) = some given ∧
    car = { given with id := car.id }
  repeated : ∃ m'', s.addCars regNums m' = (.ok 0, m'') ∧ m''.memory = m'.memory

section Outcome

variable (s : Service LoggedMemory) {regNums : List String}

theorem addCars_nil (m : LoggedMemory) :
    s.addCars [] m = (.error (.validation "regNums" "must not be empty"), m) := rfl

theorem addCars_of_unresolved (hne : regNums ≠ []) {e : Error}
    (h : resolve s.lookup regNums = .error e) (m : LoggedMemory) :
    s.addCars regNums m = (.error e, m) := by
  have hempty : ¬ regNums.isEmpty = true := by rwa [List.isEmpty_iff]
  rw [Service.addCars, if_neg hempty, h]
  rfl

variable (hs : s.backend.exec = exec)

include hs

/-- The compiler refuses no batch that has a record in it, so the store takes it. -/
theorem backend_addCars_eq {cars : List Car} (hcars : cars ≠ []) (m : LoggedMemory) :
    ∃ compiled, s.backend.addCars cars m =
      (.ok (m.memory.insert cars).2, ⟨(m.memory.insert cars).1, ⟨.insert cars, compiled⟩ :: m.log⟩) := by
  obtain ⟨compiled, hrun⟩ := exec_read _ (Sql.verify_insert hcars) Answer.toCount m
  refine ⟨compiled, ?_⟩
  rw [Backend.addCars, hs]
  exact hrun

theorem addCars_of_resolved (hne : regNums ≠ []) {cars : List Car}
    (h : resolve s.lookup regNums = .ok cars) (m : LoggedMemory) :
    ∃ compiled, s.addCars regNums m =
      (.ok (m.memory.insert cars).2, ⟨(m.memory.insert cars).1, ⟨.insert cars, compiled⟩ :: m.log⟩) := by
  have hempty : ¬ regNums.isEmpty = true := by rwa [List.isEmpty_iff]
  obtain ⟨compiled, hrun⟩ := backend_addCars_eq s hs (ne_nil_of_resolve hne h) m
  refine ⟨compiled, ?_⟩
  rw [Service.addCars, if_neg hempty, h]
  exact hrun

/-- Nothing is written before all numbers are looked up, and what is written then cannot fail. -/
theorem addCars_eq_error_iff (m : LoggedMemory) (e : Error) (m' : LoggedMemory) :
    s.addCars regNums m = (.error e, m') ↔
      m' = m ∧ ((regNums = [] ∧ e = .validation "regNums" "must not be empty") ∨
        ∃ regNum cause, FirstFailure s.lookup regNums regNum cause ∧
          e = .registryLookup regNum cause) := by
  rw [← resolve_eq_error_iff]
  by_cases hne : regNums = []
  · subst hne
    rw [addCars_nil]
    constructor
    · rintro ⟨rfl, rfl⟩
      exact ⟨rfl, .inl ⟨rfl, rfl⟩⟩
    · rintro ⟨rfl, ⟨_, rfl⟩ | hfails⟩
      · rfl
      · cases hfails
  · cases hcars : resolve s.lookup regNums with
    | error cause =>
      rw [addCars_of_unresolved s hne hcars]
      constructor
      · rintro ⟨rfl, rfl⟩
        exact ⟨rfl, .inr rfl⟩
      · rintro ⟨rfl, ⟨hnil, _⟩ | hfails⟩
        · exact absurd hnil hne
        · cases hfails
          rfl
    | ok cars =>
      obtain ⟨compiled, hrun⟩ := addCars_of_resolved s hs hne hcars m
      rw [hrun]
      constructor
      · intro herror
        cases herror
      · rintro ⟨_, ⟨hnil, _⟩ | hfails⟩
        · exact absurd hnil hne
        · cases hfails

/-- What a successful addition stores: of each new number the first record. -/
theorem addition_of_addCars {m m' : LoggedMemory} (hm : m.memory.regNums.Nodup) {count : Nat}
    (hadd : s.addCars regNums m = (.ok count, m')) :
    ∃ cars new, Addition s regNums m cars new count m' := by
  have hne : regNums ≠ [] := by
    rintro rfl
    cases hadd
  cases hcars : resolve s.lookup regNums with
  | error e =>
    rw [addCars_of_unresolved s hne hcars] at hadd
    cases hadd
  | ok cars =>
    obtain ⟨compiled, hrun⟩ := addCars_of_resolved s hs hne hcars m
    rw [hrun] at hadd
    cases hadd
    obtain ⟨new, hnew, hcount⟩ := m.memory.exists_brings cars
    -- The second time all the numbers are stored.
    obtain ⟨_, hagain⟩ := addCars_of_resolved s hs hne hcars
      ⟨(m.memory.insert cars).1, ⟨.insert cars, compiled⟩ :: m.log⟩
    rw [Memory.insert_of_stored _ cars hnew.covered] at hagain
    exact ⟨cars, new, {
      resolved := forall₂_of_resolve hcars
      executed := ⟨compiled, rfl⟩
      behind := hnew.behind
      once := fun car hcar =>
        List.count_eq_one_of_mem (hnew.nodup_regNums hm) (hnew.covered car hcar)
      counted := hcount.trans hnew.length_eq_card
      first := hnew.first
      repeated := ⟨_, hagain, rfl⟩ }⟩

end Outcome

/-- An addition fails without a number or at the first number whose look-up fails; the error tells which
of them it was, and then nothing is executed. Otherwise it is one insertion, which stores every number
once and counts the new ones, and the same addition adds nothing more. -/
theorem addCars_all_or_nothing {inserted : Nat} {m : LoggedMemory}
    (h : Reached LoggedMemory.backend {} inserted m) (hn : inserted < 2147483648)
    (s : Service LoggedMemory) (hs : s.backend = LoggedMemory.backend) (regNums : List String) :
    (∀ e m', s.addCars regNums m = (.error e, m') ↔
      m' = m ∧ ((regNums = [] ∧ SaysEmpty e) ∨
        ∃ regNum cause, FirstFailure s.lookup regNums regNum cause ∧ BlamesLookup regNum cause e)) ∧
    ∀ count m', s.addCars regNums m = (.ok count, m') →
      ∃ cars new, Addition s regNums m cars new count m' := by
  have hexec : s.backend.exec = exec := by rw [hs]; rfl
  have hunique := (consistent_of_reached h hn).unique
  constructor
  · intro e m'
    simp only [saysEmpty_iff, blamesLookup_iff]
    exact addCars_eq_error_iff s hexec m e m'
  · exact fun count m' hadd => addition_of_addCars s hexec hunique hadd

/-- A registry in which every number leads to the record of `B2`, except for `A1` and the empty one. -/
def sharedRecords (regNum : String) : Except Error Car :=
  if regNum = "" then .error (.adhoc "no number")
  else if regNum = "A1" then .ok { regNum } else .ok { regNum := "B2", mark := regNum }

/-- Two numbers may lead to one record, which is stored once. The first number without a record is in
the error, in front of what the registry said. -/
theorem addCars_of_shared_record :
    ∃ (m : LoggedMemory) (s : Service LoggedMemory),
      Reached LoggedMemory.backend {} 1 m ∧ 1 < 2147483648 ∧ s.backend = LoggedMemory.backend ∧
      m.memory.regNums = ["A1"] ∧
      s.addCars ["B2", "", "A1"] m =
        (.error ⟨.registryLookup "", [.adhoc "no number"]⟩, m) ∧
      s.addCars [] m = (.error ⟨.validation "regNums" "must not be empty", []⟩, m) ∧
      ∃ cars new m', s.addCars ["B2", "A1", "C3"] m = (.ok 1, m') ∧
        Addition s ["B2", "A1", "C3"] m cars new 1 m' := by
  have hadd : Reached LoggedMemory.backend {} 1 _ :=
    Reached.start.call (permissive LoggedMemory.backend) rfl (.addCars ["A1"])
  have hall := addCars_all_or_nothing hadd (by decide)
    { permissive LoggedMemory.backend with lookup := sharedRecords } rfl
  refine ⟨_, { permissive LoggedMemory.backend with lookup := sharedRecords }, hadd, by decide, rfl,
    by decide, ?_, ?_, ?_⟩
  · refine ((hall ["B2", "", "A1"]).1 _ _).2 ⟨rfl, .inr ?_⟩
    refine ⟨"", .adhoc "no number", ⟨["B2"], ["A1"], rfl, ?_, rfl⟩, rfl, rfl, rfl⟩
    intro earlier hearlier
    rw [List.mem_singleton.1 hearlier]
    exact ⟨_, rfl⟩
  · exact ((hall []).1 _ _).2 ⟨rfl, .inl ⟨rfl, rfl, rfl⟩⟩
  · obtain ⟨cars, new, hnew⟩ := (hall ["B2", "A1", "C3"]).2 1 _ rfl
    exact ⟨cars, new, _, rfl, hnew⟩

end VehicleRecords.Service
