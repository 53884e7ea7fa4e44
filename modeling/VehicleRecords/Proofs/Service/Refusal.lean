import VehicleRecords.Proofs.Service.Run
import VehicleRecords.Proofs.Sql.Numbering
import VehicleRecords.Proofs.Validator.Refused

namespace VehicleRecords

variable {σ τ : Type}

open Store

/-- The store beside the operations that it was given, in order. -/
def Backend.recorded (b : Backend σ) : Backend (σ × List Operation) where
  grammar := b.grammar
  exec op := fun (state, given) =>
    let (answer, after) := b.exec op state
    (answer, (after, given ++ [op]))
  pushSchema := fun (state, given) =>
    let (answer, after) := b.pushSchema state
    (answer, (after, given))
  reset := fun (state, given) =>
    let (answer, after) := b.reset state
    (answer, (after, given))

namespace Service

def withStore (s : Service σ) (b : Backend τ) : Service τ where
  backend := b
  lookup := s.lookup
  validator := s.validator
  policy := s.policy
  currentYear := s.currentYear

def Admits (s : Service σ) (patch : CarPatch) : Prop :=
  s.validator.Accepts s.currentYear patch ∧ ∃ c, patch.value? c ≠ none

/-- Why a patch is turned away: the first invalid value, whose field the error names, or that there is
none at all. -/
inductive TurnsAway (s : Service σ) (patch : CarPatch) (e : Error) : Prop
  | invalid {c : Column} {reason : String}
      (h : s.validator.RefusesFirst s.currentYear patch c reason)
      (hkind : e.is .validation = true) (herror : e = Cause.validation c.fieldName reason)
  | empty (h : ∀ c, patch.value? c = none) (hkind : e.is .noFieldsToUpdate = true)
      (herror : e = Cause.noFieldsToUpdate)

theorem editCar_of_admits {s : Service σ} {patch : CarPatch} (h : s.Admits patch) (id : Int64) :
    s.editCar id patch = s.backend.updateCar id patch := by
  rw [Service.editCar, (Validator.validate_eq_ok_iff _ _ _).2 h.1]
  dsimp only
  rw [patch.isEmpty_eq_false_iff.2 h.2, if_neg Bool.false_ne_true]

/-- An edit that is turned away is answered alike over every store, and concerns none. -/
theorem editCar_of_not_admits {s : Service σ} {patch : CarPatch} (h : ¬ s.Admits patch)
    (id : Int64) : ∃ e, s.TurnsAway patch e ∧
      ∀ (τ : Type) (b : Backend τ), (s.withStore b).editCar id patch = throw e := by
  cases hvalid : s.validator.validate s.currentYear patch with
  | error e =>
    obtain ⟨c, reason, hfirst, rfl⟩ := (Validator.validate_eq_error_iff _ _ _ e).1 hvalid
    refine ⟨.validation c.fieldName reason, .invalid hfirst rfl rfl, fun τ b => ?_⟩
    rw [Service.editCar, withStore, hvalid]
  | ok _ =>
    have haccepts := (Validator.validate_eq_ok_iff _ _ _).1 hvalid
    have hempty : patch.isEmpty = true := by
      rw [← Bool.not_eq_false, patch.isEmpty_eq_false_iff]
      exact fun hset => h ⟨haccepts, hset⟩
    refine ⟨.noFieldsToUpdate, .empty (patch.isEmpty_iff.1 hempty) rfl rfl, fun τ b => ?_⟩
    rw [Service.editCar, withStore, hvalid]
    dsimp only
    rw [if_pos hempty]

theorem editCar_eq_throw {s : Service σ} {patch : CarPatch} (h : ¬ s.Admits patch) (id : Int64) :
    ∃ e, s.editCar id patch = throw e := by
  obtain ⟨e, _, hthrow⟩ := editCar_of_not_admits h id
  exact ⟨e, hthrow σ s.backend⟩

theorem recorded_updateCar (b : Backend σ) (id : Int64) (patch : CarPatch) (state : σ)
    (before : List Operation) :
    b.recorded.updateCar id patch (state, before) = ((b.updateCar id patch state).1,
      ((b.updateCar id patch state).2, before ++ [.updateById id patch])) := by
  rw [Backend.updateCar, Backend.updateCar, StoreM.bind_apply, StoreM.bind_apply]
  dsimp only [Backend.recorded]
  cases b.exec (.updateById id patch) state with
  | mk answer after => cases answer <;> rfl

/-- A store in memory carries the update out and logs it. -/
theorem editCar_run {s : Service LoggedMemory} (hs : s.backend.exec = LoggedMemory.exec)
    {patch : CarPatch} (h : s.Admits patch) (id : Int64) (m : LoggedMemory) :
    ∃ compiled, s.editCar id patch m =
      ((m.memory.run (.updateById id patch)).1.bind fun _ => .ok (),
        ⟨(m.memory.run (.updateById id patch)).2, ⟨.updateById id patch, compiled⟩ :: m.log⟩) := by
  have hverify : (Sql.Statement.run (.updateById id patch)).verify = .ok () := by
    rw [Sql.Statement.verify, patch.isEmpty_eq_false_iff.2 h.2]
    rfl
  obtain ⟨compiled, hrun⟩ := LoggedMemory.exec_read _ hverify (fun _ => .ok ()) m
  refine ⟨compiled, ?_⟩
  rw [editCar_of_admits h, Backend.updateCar, hs]
  exact hrun

/-- Whatever the store, an edit reaches it exactly when every field that is present is valid and there
is one, and then as one update with the same id and patch. Any other edit leaves the store and its log
alone; it is answered with the first invalid field in column order, or as an edit without fields. The
tests of absent fields have no say. -/
theorem edit_reaches_store (s : Service σ) (id : Int64) (patch : CarPatch) (state : σ)
    (before : List Operation) :
    ∃ reached,
      (s.withStore s.backend.recorded).editCar id patch (state, before) =
        ((s.editCar id patch state).1, ((s.editCar id patch state).2, before ++ reached)) ∧
      (reached ≠ [] ↔ s.validator.Accepts s.currentYear patch ∧ ∃ c, patch.value? c ≠ none) ∧
      (reached ≠ [] → reached = [.updateById id patch]) ∧
      (reached = [] → ∃ e, s.TurnsAway patch e ∧ s.editCar id patch state = (.error e, state)) ∧
      (∀ m : LoggedMemory, ∃ logged,
        ((s.withStore LoggedMemory.backend).editCar id patch m).2.log = logged ++ m.log ∧
        logged.map (·.operation) = reached) ∧
      ∀ v : Validator, (∀ c, patch.value? c ≠ none → v.matcher? c = s.validator.matcher? c) →
        ({ s with validator := v } : Service σ).editCar id patch = s.editCar id patch := by
  have hcongr (v : Validator)
      (hv : ∀ c, patch.value? c ≠ none → v.matcher? c = s.validator.matcher? c) :
      ({ s with validator := v } : Service σ).editCar id patch = s.editCar id patch := by
    rw [Service.editCar, Service.editCar, Validator.validate_congr s.currentYear patch hv]
  by_cases h : s.Admits patch
  · have hone : [Operation.updateById id patch] ≠ [] := List.cons_ne_nil _ _
    refine ⟨[.updateById id patch], ?_, ⟨fun _ => h, fun _ => hone⟩, fun _ => rfl,
      fun hnil => absurd hnil hone, fun m => ?_, hcongr⟩
    · -- The same checks stand before the recorded store.
      have hrecorded : (s.withStore s.backend.recorded).Admits patch := h
      rw [editCar_of_admits h, editCar_of_admits hrecorded]
      exact recorded_updateCar s.backend id patch state before
    · have hmemory : (s.withStore LoggedMemory.backend).Admits patch := h
      obtain ⟨compiled, hrun⟩ := editCar_run rfl hmemory id m
      rw [hrun]
      exact ⟨[⟨.updateById id patch, compiled⟩], rfl, rfl⟩
  · obtain ⟨e, haway, hthrow⟩ := editCar_of_not_admits h id
    have hself : s.editCar id patch = throw e := hthrow σ s.backend
    refine ⟨[], ?_, ⟨fun hne => absurd rfl hne, fun hadmits => absurd hadmits h⟩,
      fun hne => absurd rfl hne, fun _ => ⟨e, haway, by rw [hself]; rfl⟩, fun m => ?_, hcongr⟩
    · rw [hthrow, hself, List.append_nil]
      rfl
    · rw [hthrow]
      exact ⟨[], rfl, rfl⟩

def noPatronymic : Service LoggedMemory :=
  let s := permissive LoggedMemory.backend
  { s with validator := { s.validator with ownerPatronymic := ⟨"[^\\s\\S]", fun _ => false⟩ } }

/-- The year stands before the patronymic, and without either there is nothing to edit. The rule for an
absent patronymic does not keep an edit from the store, which may not have the record. -/
theorem edit_with_and_without_patronymic :
    let refused : CarPatch := { year := some 1899, owner := some { patronymic := some "Ilyich" } }
    let admitted : CarPatch := { owner := some { surname := some "Petrov" } }
    (noPatronymic.withStore noPatronymic.backend.recorded).editCar 7 refused ({}, []) =
      (.error ⟨.validation "year" "must be between 1900 and 65535", []⟩, ({}, [])) ∧
    (noPatronymic.withStore noPatronymic.backend.recorded).editCar 7 { owner := some {} } ({}, []) =
      (.error ⟨.noFieldsToUpdate, []⟩, ({}, [])) ∧
    ∃ m, (noPatronymic.withStore noPatronymic.backend.recorded).editCar 7 admitted ({}, []) =
      (.error ⟨.recordNotFound "car_id=7", []⟩, (m, [.updateById 7 admitted])) := by
  intro refused admitted
  refine ⟨?_, ?_, ?_⟩
  · obtain ⟨reached, hrun, hreached, _⟩ := edit_reaches_store noPatronymic 7 refused {} []
    have hnone : reached = [] := by
      refine Classical.byContradiction fun hne => ?_
      have hyear := (hreached.1 hne).1.year 1899 rfl
      exact absurd hyear (by decide)
    rw [hrun, hnone]
    rfl
  · obtain ⟨reached, hrun, hreached, _⟩ :=
      edit_reaches_store noPatronymic 7 { owner := some {} } {} []
    have hnone : reached = [] := by
      refine Classical.byContradiction fun hne => ?_
      obtain ⟨c, hc⟩ := (hreached.1 hne).2
      cases c <;> exact hc rfl
    rw [hrun, hnone]
    rfl
  · obtain ⟨reached, hrun, hreached, hone, _⟩ := edit_reaches_store noPatronymic 7 admitted {} []
    have haccepts : noPatronymic.validator.Accepts noPatronymic.currentYear admitted :=
      (Validator.validate_eq_ok_iff _ _ _).1 rfl
    rw [hrun, hone (hreached.2 ⟨haccepts, .ownerSurname, by decide⟩)]
    exact ⟨_, rfl⟩

end Service

end VehicleRecords
