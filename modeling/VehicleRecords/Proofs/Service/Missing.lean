import VehicleRecords.Proofs.Http.Failure
import VehicleRecords.Proofs.Postgres.Statement
import VehicleRecords.Proofs.Service.Edit
import VehicleRecords.Postgres.Scripted

namespace VehicleRecords.Service

open Store LoggedMemory

/-- Some stored record bears the registration number that the patch sets. -/
def Borne (m : LoggedMemory) (patch : CarPatch) : Prop :=
  ∃ car ∈ m.memory.cars, patch.regNum = some car.regNum

theorem taken_iff_borne {m : LoggedMemory} {id : Int64} (h : ¬ Stored m id) (patch : CarPatch) :
    Taken m id patch ↔ Borne m patch := by
  constructor
  · rintro ⟨car, hcar, _, hset⟩
    exact ⟨car, hcar, hset⟩
  · rintro ⟨car, hcar, hset⟩
    exact ⟨car, hcar, fun hid => h ⟨car, hcar, hid⟩, hset⟩

/-- What an operation on a record that is not stored comes to. -/
theorem missing_record {inserted : Nat} {m : LoggedMemory}
    (h : Reached LoggedMemory.backend {} inserted m) (hn : inserted < 2147483648)
    (s : Service LoggedMemory) (hs : s.backend = LoggedMemory.backend) (id : Int64)
    (hmissing : ¬ Stored m id) :
    (s.getCar id m).1 = .error (.noSuchCar id) ∧ (s.deleteCar id m).1 = .error (.noSuchCar id) ∧
    (∀ patch, s.validator.Accepts s.currentYear patch → patch.isEmpty = false →
      (¬ Borne m patch → (s.editCar id patch m).1 = .error (.noSuchCar id)) ∧
      (Borne m patch → ∃ regNum, patch.regNum = some regNum ∧
        (s.editCar id patch m).1 = .error (.alreadyExists ("reg_num=" ++ regNum)))) ∧
    (Error.noSuchCar id).is .recordNotFound = true ∧
    (Http.Response.ofError (.noSuchCar id)).status.code = 404 ∧
    ∀ {σ : Type} (server : Postgres.Server σ) (op : Operation) (start finish : Postgres.Session × σ),
      Postgres.Targets id op → Postgres.ConcernsNoRow server op start finish →
      Postgres.exec server op start = (.error (.noSuchCar id), finish) := by
  have hexec : s.backend.exec = exec := by rw [hs]; rfl
  have hm := consistent_of_reached h hn
  refine ⟨?_, ?_, ?_, rfl, rfl, ?_⟩
  · rw [(getCar_outcome s hexec id m).2, (not_stored_iff m id).1 hmissing]
  · rcases deleteCar_cases hexec id hm with ⟨_, herror⟩ | ⟨hstored, _⟩
    · exact herror
    · exact absurd hstored hmissing
  · intro patch hv hne
    rw [← taken_iff_borne hmissing]
    rcases editCar_cases_of_accepted hexec id hm hv hne with
      ⟨htaken, hexists⟩ | ⟨hfree, _, herror⟩ | ⟨_, hstored, _⟩
    · exact ⟨fun hfree => absurd htaken hfree, fun _ => hexists⟩
    · exact ⟨fun _ => herror, fun htaken => absurd htaken hfree⟩
    · exact absurd hstored hmissing
  · intro σ server op start finish hop hnone
    exact Postgres.exec_of_no_row hop hnone

theorem permissive_accepts (patch : CarPatch) (hyear : patch.year = none) :
    (permissive LoggedMemory.backend).validator.Accepts 65535 patch where
  regNum := fun _ _ => rfl
  mark := fun _ _ => rfl
  model := fun _ _ => rfl
  year := by simp [hyear]
  ownerName := fun _ _ => rfl
  ownerSurname := fun _ _ => rfl
  ownerPatronymic := fun _ _ => rfl

def oneRecord : LoggedMemory := ((permissive LoggedMemory.backend).addCars ["A1"] {}).2

theorem reached_oneRecord : Reached LoggedMemory.backend {} 1 oneRecord :=
  Reached.start.call (permissive LoggedMemory.backend) rfl (.addCars ["A1"])

theorem not_stored_oneRecord : ¬ Stored oneRecord 9 :=
  (not_stored_iff oneRecord 9).2 (by decide)

/-- With a number that no record bears, the record to edit is missing. A database that has no such
row says so of any number. -/
theorem missing_record_with_new_number :
    Reached LoggedMemory.backend {} 1 oneRecord ∧ 1 < 2147483648 ∧ ¬ Stored oneRecord 9 ∧
    ((permissive LoggedMemory.backend).getCar 9 oneRecord).1 = .error (.noSuchCar 9) ∧
    ((permissive LoggedMemory.backend).deleteCar 9 oneRecord).1 = .error (.noSuchCar 9) ∧
    ((permissive LoggedMemory.backend).editCar 9 { regNum := some "B2" } oneRecord).1 =
      .error (.noSuchCar 9) ∧
    (Postgres.exec Postgres.ScriptedServer.server (.updateById 9 { regNum := some "A1" })
      ({ table := "cars" }, {})).1 = .error (.noSuchCar 9) := by
  obtain ⟨hget, hdelete, hedit, _, _, hdatabase⟩ :=
    missing_record reached_oneRecord (by decide) (permissive LoggedMemory.backend) rfl 9
      not_stored_oneRecord
  refine ⟨reached_oneRecord, by decide, not_stored_oneRecord, hget, hdelete, ?_, ?_⟩
  · refine (hedit { regNum := some "B2" } (permissive_accepts _ rfl) rfl).1 ?_
    rw [← taken_iff_borne not_stored_oneRecord, not_taken_iff]
    decide
  · have hnone : Postgres.ConcernsNoRow Postgres.ScriptedServer.server
        (.updateById 9 { regNum := some "A1" }) ({ table := "cars" }, {})
        (Postgres.exec Postgres.ScriptedServer.server (.updateById 9 { regNum := some "A1" })
          ({ table := "cars" }, {})).2 :=
      ⟨_, _, _, _, rfl, rfl, rfl, rfl, rfl⟩
    rw [hdatabase _ _ _ _ (.inr (.inr ⟨_, rfl⟩)) hnone]

/-- The number of a stored record hides that the record to edit is missing. -/
theorem edit_of_missing_record_with_borne_number :
    Reached LoggedMemory.backend {} 1 oneRecord ∧ ¬ Stored oneRecord 9 ∧
    (permissive LoggedMemory.backend).validator.Accepts 65535 { regNum := some "A1" } ∧
    CarPatch.isEmpty { regNum := some "A1" } = false ∧
    ((permissive LoggedMemory.backend).editCar 9 { regNum := some "A1" } oneRecord).1 =
      .error (.alreadyExists "reg_num=A1") ∧
    (Error.alreadyExists "reg_num=A1").is .recordNotFound = false ∧
    (Http.Response.ofError (.alreadyExists "reg_num=A1")).status.code = 409 :=
  ⟨reached_oneRecord, not_stored_oneRecord, permissive_accepts _ rfl, rfl, rfl, rfl, rfl⟩

end VehicleRecords.Service
