import VehicleRecords.Proofs.Service.Refusal
import VehicleRecords.Proofs.Store.Edit

namespace VehicleRecords.Service

open Store LoggedMemory

def Stored (m : LoggedMemory) (id : Int64) : Prop :=
  ∃ car ∈ m.memory.cars, car.id.toInt64 = id

/-- Another record than `id` holds the registration number that the patch sets. -/
def Taken (m : LoggedMemory) (id : Int64) (patch : CarPatch) : Prop :=
  ∃ car ∈ m.memory.cars, car.id.toInt64 ≠ id ∧ patch.regNum = some car.regNum

/-- The store `m'` is `m` with one record replaced, whose columns are those that the patch sets and
otherwise the old ones. -/
def Edited (s : Service LoggedMemory) (id : Int64) (patch : CarPatch) (m m' : LoggedMemory) : Prop :=
  ∃ before old new after, m.memory.At id before old after ∧
    m'.memory = { m.memory with cars := before ++ new :: after } ∧
    new.id = old.id ∧ (∀ c, new.value c = (patch.value? c).getD (old.value c)) ∧
    (s.getCar id m).1 = .ok old ∧ (s.getCar id m').1 = .ok new

def Removed (id : Int64) (m m' : LoggedMemory) : Prop :=
  ∃ before car after, m.memory.At id before car after ∧
    m'.memory = { m.memory with cars := before ++ after }

theorem stored_iff {n : Nat} {m : LoggedMemory} (hm : m.memory.Consistent n) (id : Int64) :
    Stored m id ↔ ∃ before car after, m.memory.At id before car after := by
  constructor
  · rintro ⟨car, hcar, rfl⟩
    obtain ⟨before, after, hat⟩ := Memory.exists_at hm hcar
    exact ⟨before, car, after, hat⟩
  · rintro ⟨before, car, after, hat⟩
    refine ⟨car, ?_, hat.id_eq⟩
    rw [hat.cars_eq]
    exact List.mem_append_right before List.mem_cons_self

theorem not_stored_iff (m : LoggedMemory) (id : Int64) :
    ¬ Stored m id ↔ m.memory.find? id = none := by
  rw [Memory.find?_eq_none_iff, Stored]
  simp only [not_exists, not_and, ne_eq]

theorem not_taken_iff (m : LoggedMemory) (id : Int64) (patch : CarPatch) :
    ¬ Taken m id patch ↔ m.memory.conflict? id patch = none := by
  rw [Memory.conflict?_eq_none_iff, Taken]
  simp only [not_exists, not_and, ne_eq]

section Outcome

variable (s : Service LoggedMemory) (hs : s.backend.exec = exec) (id : Int64) {n : Nat}
  {m : LoggedMemory}

theorem accepted_of_editCar {patch : CarPatch} {m' : LoggedMemory}
    (h : s.editCar id patch m = (.ok (), m')) :
    s.validator.Accepts s.currentYear patch ∧ patch.isEmpty = false := by
  rw [patch.isEmpty_eq_false_iff]
  by_contra hnot
  obtain ⟨e, hthrow⟩ := editCar_eq_throw hnot id
  rw [hthrow] at h
  cases h

include hs

/-- A look-up answers with the record that has the id and writes nothing. -/
theorem getCar_outcome (m : LoggedMemory) :
    (s.getCar id m).2.memory = m.memory ∧ (s.getCar id m).1 =
      match m.memory.find? id with
      | some car => .ok car
      | none => .error (.noSuchCar id) := by
  obtain ⟨compiled, hrun⟩ := exec_read (.getById id) rfl (readCar id) m
  rw [getCar_eq s hs, hrun]
  refine ⟨m.memory.run_getById id, ?_⟩
  rw [Memory.run_getById_eq]
  cases m.memory.find? id <;> rfl

/-- What an edit comes to that is not refused by the checks. -/
theorem editCar_outcome {patch : CarPatch} (hv : s.validator.Accepts s.currentYear patch)
    (hne : patch.isEmpty = false) (m : LoggedMemory) :
    (s.editCar id patch m).2.memory = (m.memory.run (.updateById id patch)).2 ∧
    (s.editCar id patch m).1 = (m.memory.run (.updateById id patch)).1.bind fun _ => .ok () := by
  obtain ⟨compiled, hrun⟩ := editCar_run hs ⟨hv, patch.isEmpty_eq_false_iff.1 hne⟩ id m
  rw [hrun]
  exact ⟨rfl, rfl⟩

theorem deleteCar_outcome (m : LoggedMemory) :
    (s.deleteCar id m).2.memory = (m.memory.run (.deleteById id)).2 ∧
    (s.deleteCar id m).1 = (m.memory.run (.deleteById id)).1.bind fun _ => .ok () := by
  obtain ⟨compiled, hrun⟩ := exec_read (.deleteById id) rfl (fun _ => .ok ()) m
  have hexec : s.deleteCar id m =
      ((m.memory.run (.deleteById id)).1.bind fun _ => .ok (),
        ⟨(m.memory.run (.deleteById id)).2, ⟨.deleteById id, compiled⟩ :: m.log⟩) := by
    rw [Service.deleteCar, Backend.deleteCar, hs]
    exact hrun
  rw [hexec]
  exact ⟨rfl, rfl⟩

end Outcome

/-- What an edit comes to that is not refused by the checks. A number that is taken is noticed before
a record that is missing. -/
theorem editCar_cases_of_accepted {n : Nat} {s : Service LoggedMemory}
    (hs : s.backend.exec = exec) (id : Int64) {patch : CarPatch} {m : LoggedMemory}
    (hm : m.memory.Consistent n) (hv : s.validator.Accepts s.currentYear patch)
    (hne : patch.isEmpty = false) :
    (Taken m id patch ∧ ∃ regNum, patch.regNum = some regNum ∧
      (s.editCar id patch m).1 = .error (.alreadyExists ("reg_num=" ++ regNum))) ∨
    (¬ Taken m id patch ∧ ¬ Stored m id ∧ (s.editCar id patch m).1 = .error (.noSuchCar id)) ∨
    (¬ Taken m id patch ∧ Stored m id ∧ (s.editCar id patch m).1 = .ok () ∧
      Edited s id patch m (s.editCar id patch m).2) := by
  obtain ⟨hmemory, hresult⟩ := editCar_outcome s hs id hv hne m
  by_cases htaken : Taken m id patch
  · obtain ⟨car, hcar, hid, hset⟩ := htaken
    have hc := (m.memory.conflict?_eq_some_iff id patch car.regNum).2 ⟨hset, car, hcar, hid, rfl⟩
    rw [Memory.run_updateById_of_conflict hc] at hresult
    exact .inl ⟨⟨car, hcar, hid, hset⟩, car.regNum, hset, hresult⟩
  · have hc := (not_taken_iff m id patch).1 htaken
    by_cases hstored : Stored m id
    · obtain ⟨before, car, after, hat⟩ := (stored_iff hm id).1 hstored
      rw [Memory.run_updateById_of_at hat hc] at hmemory hresult
      have hold : (s.getCar id m).1 = .ok car := by
        rw [(getCar_outcome s hs id m).2, hat.find?_eq]
      have hnew : (s.getCar id (s.editCar id patch m).2).1 = .ok (patch.apply car) := by
        rw [(getCar_outcome s hs id _).2, hmemory, (hat.patched patch).find?_eq]
      exact .inr (.inr ⟨htaken, hstored, hresult, before, car, patch.apply car, after, hat, hmemory,
        rfl, patch.value_apply car, hold, hnew⟩)
    · rw [Memory.run_updateById_of_missing hc ((not_stored_iff m id).1 hstored)] at hresult
      exact .inr (.inl ⟨htaken, hstored, hresult⟩)

/-- A deletion takes out the record with the id, or there is none. -/
theorem deleteCar_cases {n : Nat} {s : Service LoggedMemory} (hs : s.backend.exec = exec)
    (id : Int64) {m : LoggedMemory} (hm : m.memory.Consistent n) :
    (¬ Stored m id ∧ (s.deleteCar id m).1 = .error (.noSuchCar id)) ∨
    (Stored m id ∧ (s.deleteCar id m).1 = .ok () ∧ Removed id m (s.deleteCar id m).2) := by
  obtain ⟨hmemory, hresult⟩ := deleteCar_outcome s hs id m
  by_cases hstored : Stored m id
  · obtain ⟨before, car, after, hat⟩ := (stored_iff hm id).1 hstored
    rw [Memory.run_deleteById_of_at hat] at hmemory hresult
    exact .inr ⟨hstored, hresult, before, car, after, hat, hmemory⟩
  · rw [Memory.run_deleteById_of_missing ((not_stored_iff m id).1 hstored)] at hresult
    exact .inl ⟨hstored, hresult⟩

theorem listCars_keeps (s : Service LoggedMemory) (hs : s.backend.exec = exec) (filter : Filter)
    (pagination : Pagination) (m : LoggedMemory) :
    (s.listCars filter pagination m).2.memory = m.memory := by
  rcases listCars_carriesOut s hs filter pagination m with
    ⟨e, t, hrun, ht⟩ | ⟨answer, cars, t, hrun, hop, _⟩
  · rw [hrun, ht]
  · rw [hrun]
    exact (congrArg Prod.snd hop).symm

/-- The checks come first, then the registration number, then the record. -/
theorem editCar_succeeds_iff {n : Nat} {s : Service LoggedMemory} (hs : s.backend.exec = exec)
    (id : Int64) (patch : CarPatch) {m : LoggedMemory} (hm : m.memory.Consistent n) :
    (∃ m', s.editCar id patch m = (.ok (), m')) ↔
      s.validator.Accepts s.currentYear patch ∧ (∃ c, patch.value? c ≠ none) ∧ Stored m id ∧
        ¬ Taken m id patch := by
  rw [← patch.isEmpty_eq_false_iff]
  constructor
  · rintro ⟨m', hedit⟩
    obtain ⟨hv, hne⟩ := accepted_of_editCar s id hedit
    rcases editCar_cases_of_accepted hs id hm hv hne with
      ⟨_, regNum, _, herror⟩ | ⟨_, _, herror⟩ | ⟨htaken, hstored, _⟩
    · rw [hedit] at herror
      cases herror
    · rw [hedit] at herror
      cases herror
    · exact ⟨hv, hne, hstored, htaken⟩
  · rintro ⟨hv, hne, hstored, htaken⟩
    rcases editCar_cases_of_accepted hs id hm hv hne with
      ⟨htaken', _⟩ | ⟨_, hstored', _⟩ | ⟨_, _, hok, _⟩
    · exact absurd htaken' htaken
    · exact absurd hstored hstored'
    · exact ⟨_, Prod.ext hok rfl⟩

theorem edited_of_editCar {n : Nat} {s : Service LoggedMemory} (hs : s.backend.exec = exec)
    {id : Int64} {patch : CarPatch} {m m' : LoggedMemory} (hm : m.memory.Consistent n)
    (hedit : s.editCar id patch m = (.ok (), m')) : Edited s id patch m m' := by
  obtain ⟨hv, hne⟩ := accepted_of_editCar s id hedit
  have hcases := editCar_cases_of_accepted hs id hm hv hne
  rw [hedit] at hcases
  rcases hcases with ⟨_, _, _, herror⟩ | ⟨_, _, herror⟩ | ⟨_, _, _, hedited⟩
  · cases herror
  · cases herror
  · exact hedited

/-- An edit succeeds exactly when the present fields are valid, there is one, the record is stored and
no other one holds the new number; then the record has the fields of the patch and otherwise its own.
A deletion succeeds exactly when the record is stored. Neither concerns any other record or the order
of the records, and look-ups and listings change nothing. -/
theorem edits_and_deletions {inserted : Nat} {m : LoggedMemory}
    (h : Reached LoggedMemory.backend {} inserted m) (hn : inserted < 2147483648)
    (s : Service LoggedMemory) (hs : s.backend = LoggedMemory.backend) (id : Int64) :
    (∀ patch, ((∃ m', s.editCar id patch m = (.ok (), m')) ↔
        s.validator.Accepts s.currentYear patch ∧ (∃ c, patch.value? c ≠ none) ∧ Stored m id ∧
          ¬ Taken m id patch) ∧
      ∀ m', s.editCar id patch m = (.ok (), m') → Edited s id patch m m') ∧
    ((∃ m', s.deleteCar id m = (.ok (), m')) ↔ Stored m id) ∧
    (∀ m', s.deleteCar id m = (.ok (), m') → Removed id m m') ∧
    (s.getCar id m).2.memory = m.memory ∧
    ∀ filter pagination, (s.listCars filter pagination m).2.memory = m.memory := by
  have hexec : s.backend.exec = exec := by rw [hs]; rfl
  have hm := consistent_of_reached h hn
  have hdelete := deleteCar_cases hexec id hm
  refine ⟨fun patch => ⟨editCar_succeeds_iff hexec id patch hm,
    fun m' hedit => edited_of_editCar hexec hm hedit⟩, ⟨?_, ?_⟩, ?_,
    (getCar_outcome s hexec id m).1, fun filter pagination =>
      listCars_keeps s hexec filter pagination m⟩
  · rintro ⟨m', hok⟩
    rw [hok] at hdelete
    rcases hdelete with ⟨_, herror⟩ | ⟨hstored, _⟩
    · cases herror
    · exact hstored
  · intro hstored
    rcases hdelete with ⟨hmissing, _⟩ | ⟨_, hok, _⟩
    · exact absurd hstored hmissing
    · exact ⟨_, Prod.ext hok rfl⟩
  · intro m' hok
    rw [hok] at hdelete
    rcases hdelete with ⟨_, herror⟩ | ⟨_, _, hremoved⟩
    · cases herror
    · exact hremoved

/-- A record may be given the number that it has, and not the number of another one. -/
theorem edit_with_own_number :
    ∃ m : LoggedMemory, Reached LoggedMemory.backend {} 2 m ∧ 2 < 2147483648 ∧
      (∃ m', (permissive LoggedMemory.backend).editCar 2
          { regNum := some "B2", owner := some { surname := some "Petrov" } } m = (.ok (), m') ∧
        Edited (permissive LoggedMemory.backend) 2
          { regNum := some "B2", owner := some { surname := some "Petrov" } } m m') ∧
      (¬ ∃ m', (permissive LoggedMemory.backend).editCar 1 { regNum := some "B2" } m =
        (.ok (), m')) ∧
      ∃ m', (permissive LoggedMemory.backend).deleteCar 2 m = (.ok (), m') ∧ Removed 2 m m' := by
  have hadd : Reached LoggedMemory.backend {} 2 _ :=
    Reached.start.call (permissive LoggedMemory.backend) rfl (.addCars ["A1", "B2"])
  have htwo := edits_and_deletions hadd (by decide) (permissive LoggedMemory.backend) rfl 2
  have hone := edits_and_deletions hadd (by decide) (permissive LoggedMemory.backend) rfl 1
  refine ⟨_, hadd, by decide, ⟨_, rfl, (htwo.1 _).2 _ rfl⟩, ?_, _, rfl, htwo.2.2.1 _ rfl⟩
  intro hok
  obtain ⟨_, _, _, hfree⟩ := ((hone.1 _).1).1 hok
  exact hfree ⟨{ id := 2, regNum := "B2" }, by decide, by decide, rfl⟩

end VehicleRecords.Service
