import VehicleRecords.Proofs.Service.Edit
import VehicleRecords.Proofs.Store.Disjoint

namespace VehicleRecords.Service

open Store LoggedMemory

/-- The checks refuse the edit and leave the store untouched, or the edit is what the store makes of
the update. -/
theorem editCar_refused_or_run (s : Service LoggedMemory) (hs : s.backend.exec = exec) (id : Int64)
    (patch : CarPatch) :
    (∃ e, ∀ m, s.editCar id patch m = (.error e, m)) ∨
    ∀ m, (s.editCar id patch m).2.memory = (m.memory.run (.updateById id patch)).2 ∧
      (s.editCar id patch m).1 = (m.memory.run (.updateById id patch)).1.bind fun _ => .ok () := by
  by_cases h : s.Admits patch
  · exact .inr (editCar_outcome s hs id h.1 (patch.isEmpty_eq_false_iff.2 h.2))
  · obtain ⟨e, hthrow⟩ := editCar_eq_throw h id
    left
    refine ⟨e, ?_⟩
    intro m
    rw [hthrow]
    rfl

/-- Two computations one after the other: what each of them answers, and the records they leave. -/
def inTurn (a b : StoreM LoggedMemory Unit) (m : LoggedMemory) :
    Except Error Unit × Except Error Unit × Memory :=
  let (answerA, afterA) := a m
  let (answerB, afterB) := b afterA
  (answerA, answerB, afterB.memory)

section Apart

variable {s₁ s₂ : Service LoggedMemory} {id₁ id₂ : Int64} {p₁ p₂ : CarPatch}

theorem shows_of_editCar (hs₁ : s₁.backend.exec = exec) {m : LoggedMemory}
    (h : (s₁.editCar id₁ p₁ m).1 = .ok ()) : (s₁.editCar id₁ p₁ m).2.memory.Shows id₁ p₁ := by
  rcases editCar_refused_or_run s₁ hs₁ id₁ p₁ with ⟨e, hrefused⟩ | hrun
  · rw [hrefused m] at h
    cases h
  · obtain ⟨hmemory, hanswer⟩ := hrun m
    rw [hmemory]
    rw [h] at hanswer
    cases hupdate : (m.memory.run (.updateById id₁ p₁)).1 with
    | error e =>
      rw [hupdate] at hanswer
      cases hanswer
    | ok answer => exact Memory.shows_of_run hupdate

variable (hs₂ : s₂.backend.exec = exec) (h : Apart id₁ p₁ id₂ p₂)

include hs₂ h

theorem shows_behind_editCar {m : LoggedMemory} (hm : m.memory.Shows id₁ p₁) :
    (s₂.editCar id₂ p₂ m).2.memory.Shows id₁ p₁ := by
  rcases editCar_refused_or_run s₂ hs₂ id₂ p₂ with ⟨e, hrefused⟩ | hrun
  · rw [hrefused m]
    exact hm
  · rw [(hrun m).1]
    exact hm.run_updateById h

variable (hs₁ : s₁.backend.exec = exec)

include hs₁

/-- Behind an edit that is apart from it, an edit is answered as without that, and the records are
those of the other order. -/
theorem editCar_behind (m : LoggedMemory) :
    (s₁.editCar id₁ p₁ (s₂.editCar id₂ p₂ m).2).1 = (s₁.editCar id₁ p₁ m).1 ∧
    (s₁.editCar id₁ p₁ (s₂.editCar id₂ p₂ m).2).2.memory =
      (s₂.editCar id₂ p₂ (s₁.editCar id₁ p₁ m).2).2.memory := by
  rcases editCar_refused_or_run s₁ hs₁ id₁ p₁ with ⟨e₁, hrefused₁⟩ | hrun₁
  · rw [hrefused₁ m, hrefused₁]
    exact ⟨rfl, rfl⟩
  · rcases editCar_refused_or_run s₂ hs₂ id₂ p₂ with ⟨e₂, hrefused₂⟩ | hrun₂
    · rw [hrefused₂ m, hrefused₂]
      exact ⟨rfl, rfl⟩
    · -- Both reach the store, where each leaves what the other one looks at.
      obtain ⟨hanswer, hrecords⟩ := Memory.updates_commute h m.memory
      obtain ⟨hmemory₁, hanswer₁⟩ := hrun₁ m
      obtain ⟨hmemory₂, _⟩ := hrun₂ m
      constructor
      · rw [(hrun₁ _).2, hmemory₂, hanswer, hanswer₁]
      · calc
          (s₁.editCar id₁ p₁ (s₂.editCar id₂ p₂ m).2).2.memory =
              ((s₂.editCar id₂ p₂ m).2.memory.run (.updateById id₁ p₁)).2 := (hrun₁ _).1
          _ = ((m.memory.run (.updateById id₂ p₂)).2.run (.updateById id₁ p₁)).2 := by rw [hmemory₂]
          _ = ((m.memory.run (.updateById id₁ p₁)).2.run (.updateById id₂ p₂)).2 := hrecords
          _ = ((s₁.editCar id₁ p₁ m).2.memory.run (.updateById id₂ p₂)).2 := by rw [hmemory₁]
          _ = (s₂.editCar id₂ p₂ (s₁.editCar id₁ p₁ m).2).2.memory := (hrun₂ _).1.symm

end Apart

/-- Two edits that write no field in common, and of which one at most sets a registration number, are
answered the same in either order and leave the same records. What an edit wrote that succeeded is
found in them, so neither undoes the other. -/
theorem disjoint_edits_commute (s₁ s₂ : Service LoggedMemory)
    (hs₁ : s₁.backend = LoggedMemory.backend) (hs₂ : s₂.backend = LoggedMemory.backend)
    (id₁ id₂ : Int64) (p₁ p₂ : CarPatch) (hfields : List.Disjoint (p₁.written id₁) (p₂.written id₂))
    (hnumber : p₁.regNum = none ∨ p₂.regNum = none) (m : LoggedMemory) :
    ∃ answer₁ answer₂ records,
      inTurn (s₁.editCar id₁ p₁) (s₂.editCar id₂ p₂) m = (answer₁, answer₂, records) ∧
      inTurn (s₂.editCar id₂ p₂) (s₁.editCar id₁ p₁) m = (answer₂, answer₁, records) ∧
      (answer₁ = .ok () → records.Shows id₁ p₁) ∧ (answer₂ = .ok () → records.Shows id₂ p₂) := by
  have hexec₁ := exec_of_backend hs₁
  have hexec₂ := exec_of_backend hs₂
  have hapart : Apart id₁ p₁ id₂ p₂ := ⟨hfields, hnumber⟩
  obtain ⟨hanswer₁, hrecords⟩ := editCar_behind hexec₂ hapart hexec₁ m
  obtain ⟨hanswer₂, _⟩ := editCar_behind hexec₁ hapart.symm hexec₂ m
  refine ⟨(s₁.editCar id₁ p₁ m).1, (s₂.editCar id₂ p₂ m).1,
    (s₂.editCar id₂ p₂ (s₁.editCar id₁ p₁ m).2).2.memory, ?_, ?_, ?_, ?_⟩
  · rw [← hanswer₂]
    rfl
  · rw [← hanswer₁, ← hrecords]
    rfl
  · intro hok
    exact shows_behind_editCar hexec₂ hapart (shows_of_editCar hexec₁ hok)
  · intro hok
    rw [← hrecords]
    exact shows_behind_editCar hexec₁ hapart.symm (shows_of_editCar hexec₂ hok)

def renumbering : CarPatch := { regNum := some "C3", owner := some { surname := some "Petrov" } }

def relabelling : CarPatch := { mark := some "Lada", owner := some { name := some "Ivan" } }

/-- Two clients edit one record, the owner of which is in both patches. -/
theorem disjoint_edits_of_one_record :
    ∃ (s : Service LoggedMemory) (m : LoggedMemory) (records : Memory),
      s.backend = LoggedMemory.backend ∧ m.memory.regNums = ["A1", "B2"] ∧
      List.Disjoint (renumbering.written 1) (relabelling.written 1) ∧ relabelling.regNum = none ∧
      inTurn (s.editCar 1 renumbering) (s.editCar 1 relabelling) m = (.ok (), .ok (), records) ∧
      inTurn (s.editCar 1 relabelling) (s.editCar 1 renumbering) m = (.ok (), .ok (), records) ∧
      records.cars =
        [{ id := 1, regNum := "C3", mark := "Lada",
           owner := { name := "Ivan", surname := "Petrov" } }, { id := 2, regNum := "B2" }] := by
  have hfields : List.Disjoint (renumbering.written 1) (relabelling.written 1) := by
    have hfirst : renumbering.written 1 = [(1, .regNum), (1, .ownerSurname)] := rfl
    have hsecond : relabelling.written 1 = [(1, .mark), (1, .ownerName)] := rfl
    rw [hfirst, hsecond]
    simp
  have hboth := disjoint_edits_commute (permissive LoggedMemory.backend)
    (permissive LoggedMemory.backend) rfl rfl 1 1 renumbering relabelling hfields (.inr rfl)
    ((permissive LoggedMemory.backend).addCars ["A1", "B2"] {}).2
  obtain ⟨answer₁, answer₂, records, hfirst, hsecond, _⟩ := hboth
  -- The first of the two orders tells what the answers and the records are.
  cases hfirst
  exact ⟨_, _, _, rfl, rfl, hfields, rfl, rfl, hsecond, rfl⟩

end VehicleRecords.Service
