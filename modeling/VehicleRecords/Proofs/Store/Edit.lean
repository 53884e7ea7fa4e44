import Mathlib.Data.List.Nodup
import VehicleRecords.Proofs.Store.Records

/-!
Changes of one record. Where ids are not repeated, an id stands for one place in the store: a patch
changes the record there, a deletion takes it out, and all the others stay where they are.
-/
namespace VehicleRecords

/-- A patch replaces the columns it sets. -/
theorem CarPatch.value_apply (p : CarPatch) (car : Car) (c : Column) :
    (p.apply car).value c = (p.value? c).getD (car.value c) := by
  have htext (field : Option String) (stored : String) :
      Value.text (field.getD stored) = (field.map .text).getD (.text stored) := by
    cases field <;> rfl
  have howner (get : Owner → String) (leaf : OwnerPatch → Option String)
      (h : ∀ o, get (o.apply car.owner) = (leaf o).getD (get car.owner)) :
      Value.text (get (p.apply car).owner) =
        ((p.owner.bind leaf).map .text).getD (.text (get car.owner)) := by
    rw [apply]
    cases p.owner with
    | none => rfl
    | some o => exact (congrArg Value.text (h o)).trans (htext (leaf o) (get car.owner))
  cases c with
  | regNum => exact htext p.regNum car.regNum
  | mark => exact htext p.mark car.mark
  | model => exact htext p.model car.model
  | year =>
    rw [Car.value, Car.value, value?, apply]
    cases p.year <;> rfl
  | ownerName => exact howner (·.name) (·.name) fun _ => rfl
  | ownerSurname => exact howner (·.surname) (·.surname) fun _ => rfl
  | ownerPatronymic => exact howner (·.patronymic) (·.patronymic) fun _ => rfl

namespace Store.Memory

/-- The record `car` has the id and stands between `before` and `after`, which do not have it. -/
structure At (m : Memory) (id : Int64) (before : List Car) (car : Car) (after : List Car) : Prop where
  cars_eq : m.cars = before ++ car :: after
  id_eq : car.id.toInt64 = id
  others : ∀ other ∈ before ++ after, other.id.toInt64 ≠ id

/-- Where ids are not repeated, a record has its place by its id. -/
theorem exists_at_of_nodup {m : Memory} (h : m.ids.Nodup) {car : Car} (hcar : car ∈ m.cars) :
    ∃ before after, m.At car.id.toInt64 before car after := by
  obtain ⟨before, after, heq⟩ := List.append_of_mem hcar
  refine ⟨before, after, heq, rfl, ?_⟩
  rw [ids, heq, List.map_append, List.map_cons, List.nodup_middle, List.nodup_cons,
    ← List.map_append] at h
  intro other hother hid
  apply h.1
  have hsame : other.id = car.id :=
    id_eq_of_hasId ((hasId_iff _ _).2 hid) ((hasId_iff _ _).2 rfl)
  exact hsame ▸ List.mem_map_of_mem hother

theorem exists_at {n : Nat} {m : Memory} (h : m.Consistent n) {car : Car} (hcar : car ∈ m.cars) :
    ∃ before after, m.At car.id.toInt64 before car after :=
  exists_at_of_nodup (h.increasing.imp fun hlt => Int32.ne_of_lt hlt) hcar

namespace At

variable {m : Memory} {id : Int64} {before after : List Car} {car : Car}

theorem hasId_others (h : m.At id before car after) :
    ∀ other ∈ before ++ after, hasId id other = false := by
  intro other hother
  rw [Bool.eq_false_iff]
  exact fun hid => h.others other hother ((hasId_iff id other).1 hid)

theorem find?_eq (h : m.At id before car after) : m.find? id = some car := by
  have hbefore : before.find? (hasId id) = none := by
    rw [List.find?_eq_none]
    intro other hother
    rw [h.hasId_others other (List.mem_append_left after hother)]
    exact Bool.false_ne_true
  have hcar : (car :: after).find? (hasId id) = some car :=
    List.find?_cons_of_pos ((hasId_iff id car).2 h.id_eq)
  rw [find?, h.cars_eq, List.find?_append, hbefore, hcar, Option.none_or]

theorem patchFirst_eq (h : m.At id before car after) (patch : CarPatch) :
    patchFirst id patch m.cars = before ++ patch.apply car :: after := by
  have hcar : hasId id car = true := (hasId_iff id car).2 h.id_eq
  have hbefore := h.hasId_others
  rw [h.cars_eq]
  clear h
  induction before with
  | nil => rw [List.nil_append, patchFirst, if_pos hcar, List.nil_append]
  | cons other before ih =>
    have hother := hbefore other List.mem_cons_self
    rw [List.cons_append, patchFirst, hother, if_neg Bool.false_ne_true,
      ih fun c hc => hbefore c (List.mem_cons_of_mem other hc), List.cons_append]

theorem filter_eq (h : m.At id before car after) :
    m.cars.filter (!hasId id ·) = before ++ after := by
  have hcar : (!hasId id car) = false := by rw [(hasId_iff id car).2 h.id_eq, Bool.not_true]
  have hothers : (before ++ after).filter (!hasId id ·) = before ++ after := by
    rw [List.filter_eq_self]
    intro other hother
    rw [h.hasId_others other hother, Bool.not_false]
  rw [h.cars_eq, List.filter_append, List.filter_cons_of_neg (by rw [hcar]; exact Bool.false_ne_true),
    ← List.filter_append, hothers]

/-- The patched record stands in the place of the old one. -/
theorem patched (h : m.At id before car after) (patch : CarPatch) :
    At { m with cars := before ++ patch.apply car :: after } id before (patch.apply car) after :=
  ⟨rfl, h.id_eq, h.others⟩

end At

theorem find?_eq_none_iff (m : Memory) (id : Int64) :
    m.find? id = none ↔ ∀ car ∈ m.cars, car.id.toInt64 ≠ id := by
  simp only [find?, List.find?_eq_none, hasId_iff, ne_eq]

/-- A number that another record holds cannot be set. -/
theorem conflict?_eq_some_iff (m : Memory) (id : Int64) (patch : CarPatch) (regNum : String) :
    m.conflict? id patch = some regNum ↔
      patch.regNum = some regNum ∧ ∃ car ∈ m.cars, car.id.toInt64 ≠ id ∧ car.regNum = regNum := by
  have hany (wanted : String) :
      (m.cars.any fun c => c.regNum == wanted && !hasId id c) = true ↔
        ∃ car ∈ m.cars, car.id.toInt64 ≠ id ∧ car.regNum = wanted := by
    simp only [List.any_eq_true, Bool.and_eq_true, beq_iff_eq, Bool.not_eq_true', ne_eq,
      ← hasId_iff, Bool.not_eq_true, and_comm]
  cases hp : patch.regNum with
  | none => simp [conflict?, hp]
  | some wanted =>
    simp only [conflict?, hp, Option.bind_some, Option.some.injEq]
    split
    · next h =>
      constructor
      · rintro ⟨rfl⟩
        exact ⟨rfl, (hany _).1 h⟩
      · rintro ⟨rfl, _⟩
        rfl
    · next h =>
      constructor
      · intro hsome
        cases hsome
      · rintro ⟨rfl, hcar⟩
        exact absurd ((hany _).2 hcar) h

theorem conflict?_eq_none_iff (m : Memory) (id : Int64) (patch : CarPatch) :
    m.conflict? id patch = none ↔
      ∀ car ∈ m.cars, car.id.toInt64 ≠ id → patch.regNum ≠ some car.regNum := by
  rw [Option.eq_none_iff_forall_ne_some]
  constructor
  · intro h car hcar hid hset
    exact h car.regNum ((conflict?_eq_some_iff _ _ _ _).2 ⟨hset, car, hcar, hid, rfl⟩)
  · intro h regNum hsome
    obtain ⟨hset, car, hcar, hid, rfl⟩ := (conflict?_eq_some_iff _ _ _ _).1 hsome
    exact h car hcar hid hset

section Run

variable {m : Memory} {id : Int64} {before after : List Car} {car : Car}

theorem run_getById_eq (m : Memory) (id : Int64) :
    (m.run (.getById id)).1 =
      match m.find? id with
      | some car => .ok (.cars [car])
      | none => .error (.noSuchCar id) := by
  rw [run]
  cases m.find? id <;> rfl

theorem run_deleteById_of_at (h : m.At id before car after) :
    m.run (.deleteById id) = (.ok (.count 1), { m with cars := before ++ after }) := by
  rw [run, h.find?_eq]
  dsimp only
  rw [h.filter_eq]

theorem run_deleteById_of_missing (h : m.find? id = none) :
    m.run (.deleteById id) = (.error (.noSuchCar id), m) := by
  rw [run, h]

theorem run_updateById_of_at (h : m.At id before car after) {patch : CarPatch}
    (hc : m.conflict? id patch = none) :
    m.run (.updateById id patch) =
      (.ok (.count 1), { m with cars := before ++ patch.apply car :: after }) := by
  rw [run, hc]
  dsimp only
  rw [h.find?_eq]
  dsimp only
  rw [h.patchFirst_eq]

theorem run_updateById_of_missing {patch : CarPatch} (hc : m.conflict? id patch = none)
    (h : m.find? id = none) :
    m.run (.updateById id patch) = (.error (.noSuchCar id), m) := by
  rw [run, hc]
  dsimp only
  rw [h]

/-- A conflict is noticed before the record is looked for. -/
theorem run_updateById_of_conflict {patch : CarPatch} {regNum : String}
    (hc : m.conflict? id patch = some regNum) :
    m.run (.updateById id patch) = (.error (.alreadyExists ("reg_num=" ++ regNum)), m) := by
  rw [run, hc]

end Run

end Store.Memory

end VehicleRecords
