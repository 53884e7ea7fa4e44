import Mathlib.Data.List.Basic
import VehicleRecords.Proofs.Sql.Canonical
import VehicleRecords.Proofs.Store.Edit

/-!
Patches that write different fields. Neither of them changes what the other one looks at, so the
store answers each of them as if the other had not been there, and comes to the same records in
either order (`updates_commute`).
-/
namespace VehicleRecords

def CarPatch.written (p : CarPatch) (id : Int64) : List (Int64 × Column) :=
  p.assignments.map fun a => (id, a.1)

theorem CarPatch.mem_written (p : CarPatch) (id : Int64) (field : Int64 × Column) :
    field ∈ p.written id ↔ field.1 = id ∧ p.value? field.2 ≠ none := by
  obtain ⟨fieldId, column⟩ := field
  rw [written, List.mem_map, Option.ne_none_iff_exists']
  constructor
  · rintro ⟨⟨c, v⟩, hmem, heq⟩
    cases heq
    exact ⟨rfl, v, (p.mem_assignments c v).1 hmem⟩
  · rintro ⟨hid, v, hv⟩
    refine ⟨(column, v), (p.mem_assignments column v).2 hv, ?_⟩
    rw [← hid]

/-- A record is known by its id and its columns. -/
theorem Car.eq_of_id_of_value {a b : Car} (hid : a.id = b.id) (h : ∀ c, a.value c = b.value c) :
    a = b := by
  have hzero := Car.eq_of_value a b h
  calc
    a = { ({ a with id := 0 } : Car) with id := a.id } := rfl
    _ = { ({ b with id := 0 } : Car) with id := b.id } := by rw [hzero, hid]
    _ = b := rfl

/-- Patches of different columns can be applied in either order. -/
theorem CarPatch.apply_comm {p q : CarPatch} (h : ∀ c, p.value? c = none ∨ q.value? c = none)
    (car : Car) : p.apply (q.apply car) = q.apply (p.apply car) := by
  refine Car.eq_of_id_of_value rfl ?_
  intro c
  rw [p.value_apply, q.value_apply, q.value_apply, p.value_apply]
  rcases h c with hp | hq
  · rw [hp, Option.getD_none, Option.getD_none]
  · rw [hq, Option.getD_none, Option.getD_none]

/-- No field of a record is written by both patches, and one of them at most sets a registration
number. -/
structure Apart (id₁ : Int64) (p₁ : CarPatch) (id₂ : Int64) (p₂ : CarPatch) : Prop where
  fields : List.Disjoint (p₁.written id₁) (p₂.written id₂)
  number : p₁.regNum = none ∨ p₂.regNum = none

namespace Apart

variable {id₁ id₂ : Int64} {p₁ p₂ : CarPatch}

theorem symm (h : Apart id₁ p₁ id₂ p₂) : Apart id₂ p₂ id₁ p₁ :=
  ⟨List.disjoint_symm h.fields, h.number.symm⟩

/-- Patches of one record that are apart share no column. -/
theorem columns {id : Int64} (h : Apart id p₁ id p₂) (c : Column) :
    p₁.value? c = none ∨ p₂.value? c = none := by
  by_cases hp : p₁.value? c = none
  · exact .inl hp
  · right
    by_contra hq
    have h₁ : (id, c) ∈ p₁.written id := (p₁.mem_written id (id, c)).2 ⟨rfl, hp⟩
    have h₂ : (id, c) ∈ p₂.written id := (p₂.mem_written id (id, c)).2 ⟨rfl, hq⟩
    exact h.fields h₁ h₂

end Apart

namespace Store.Memory

def patched (m : Memory) (id : Int64) (patch : CarPatch) : Memory :=
  { m with cars := patchFirst id patch m.cars }

theorem hasId_apply (id : Int64) (patch : CarPatch) (car : Car) :
    hasId id (patch.apply car) = hasId id car := rfl

theorem eq_of_hasId {id₁ id₂ : Int64} {car : Car} (h₁ : hasId id₁ car = true)
    (h₂ : hasId id₂ car = true) : id₁ = id₂ := by
  rw [hasId_iff] at h₁ h₂
  rw [← h₁, h₂]

theorem patchFirst_of_missing {id : Int64} (patch : CarPatch) {cars : List Car}
    (h : cars.find? (hasId id) = none) : patchFirst id patch cars = cars := by
  induction cars with
  | nil => rfl
  | cons car cars ih =>
    rw [List.find?_cons] at h
    split at h
    · cases h
    · next hid => rw [patchFirst, hid, if_neg Bool.false_ne_true, ih h]

/-- A look-up finds the records of before, the one with the id patched. -/
theorem find?_patchFirst (id : Int64) (patch : CarPatch) (wanted : Int64) (cars : List Car) :
    (patchFirst id patch cars).find? (hasId wanted) =
      (cars.find? (hasId wanted)).map fun car => if hasId id car then patch.apply car else car := by
  induction cars with
  | nil => rfl
  | cons car cars ih =>
    rw [patchFirst, List.find?_cons]
    by_cases hid : hasId id car = true
    · rw [if_pos hid, List.find?_cons, hasId_apply]
      split
      · rw [Option.map_some, if_pos hid]
      · next hwanted =>
        -- The records behind have not been patched, and none of those found has the id.
        have hother (c : Car) (hc : hasId wanted c = true) : ¬ hasId id c = true := by
          intro hcid
          have hsame := id_eq_of_hasId hid hcid
          rw [hasId_iff, ← hsame, ← hasId_iff] at hc
          rw [hc] at hwanted
          cases hwanted
        cases hfind : cars.find? (hasId wanted) with
        | none => rfl
        | some c => rw [Option.map_some, if_neg (hother c (List.find?_some hfind))]
    · rw [if_neg hid, List.find?_cons, ih]
      split
      · rw [Option.map_some, if_neg hid]
      · rfl

/-- A patch that sets no number leaves every record its number and its id. -/
theorem any_patchFirst (id : Int64) {patch : CarPatch} (h : patch.regNum = none)
    (holds : String → Int32 → Bool) (cars : List Car) :
    ((patchFirst id patch cars).any fun c => holds c.regNum c.id) =
      cars.any fun c => holds c.regNum c.id := by
  induction cars with
  | nil => rfl
  | cons car cars ih =>
    have hnumber : (patch.apply car).regNum = car.regNum := by
      rw [CarPatch.apply, h, Option.getD_none]
    have hid : (patch.apply car).id = car.id := rfl
    rw [patchFirst]
    split
    · rw [List.any_cons, List.any_cons, hnumber, hid]
    · rw [List.any_cons, List.any_cons, ih]

/-- An update is refused for a conflict, or it patches the record if there is one. -/
theorem run_updateById_eq (m : Memory) (id : Int64) (patch : CarPatch) :
    m.run (.updateById id patch) =
      match m.conflict? id patch with
      | some regNum => (.error (.alreadyExists ("reg_num=" ++ regNum)), m)
      | none => (if (m.find? id).isSome then .ok (.count 1) else .error (.noSuchCar id),
          m.patched id patch) := by
  rw [run]
  cases m.conflict? id patch with
  | some regNum => rfl
  | none =>
    dsimp only
    cases hfind : m.find? id with
    | some car => rfl
    | none =>
      -- There is nothing to patch, so the patched store is the store.
      have hsame : m.patched id patch = m := by rw [patched, patchFirst_of_missing patch hfind]
      rw [hsame]
      rfl

section Patched

variable (m : Memory) (id : Int64) (patch : CarPatch)

theorem find?_patched (wanted : Int64) :
    (m.patched id patch).find? wanted =
      (m.find? wanted).map fun car => if hasId id car then patch.apply car else car :=
  find?_patchFirst id patch wanted m.cars

theorem isSome_find?_patched (wanted : Int64) :
    ((m.patched id patch).find? wanted).isSome = (m.find? wanted).isSome := by
  rw [find?_patched, Option.isSome_map]

/-- Whether a patch is in conflict does not depend on another one, unless both set numbers. -/
theorem conflict?_patched (wanted : Int64) {other : CarPatch}
    (h : other.regNum = none ∨ patch.regNum = none) :
    (m.patched id patch).conflict? wanted other = m.conflict? wanted other := by
  rcases h with hother | hpatch
  · -- An update that sets no number is never in conflict.
    rw [conflict?, conflict?, hother]
    rfl
  · -- The conflict is read off the numbers and the ids, which the patch leaves.
    have hbind (regNum : String) :
        ((m.patched id patch).cars.any fun c => c.regNum == regNum && !hasId wanted c) =
          m.cars.any fun c => c.regNum == regNum && !hasId wanted c :=
      any_patchFirst id hpatch (fun number id => number == regNum && !(id.toInt64 == wanted)) m.cars
    rw [conflict?, conflict?]
    simp only [hbind]

end Patched

variable {id₁ id₂ : Int64} {p₁ p₂ : CarPatch}

/-- On one record the patches commute, and on two of them neither meets the other. -/
theorem patchFirst_comm (h : Apart id₁ p₁ id₂ p₂) (cars : List Car) :
    patchFirst id₂ p₂ (patchFirst id₁ p₁ cars) = patchFirst id₁ p₁ (patchFirst id₂ p₂ cars) := by
  induction cars with
  | nil => rfl
  | cons car cars ih =>
    -- The first record is concerned by both patches, by one of them, or by neither.
    by_cases hid₁ : hasId id₁ car = true <;> by_cases hid₂ : hasId id₂ car = true
    · have hsame : id₁ = id₂ := eq_of_hasId hid₁ hid₂
      subst hsame
      simp only [patchFirst, hid₁, if_true, hasId_apply, CarPatch.apply_comm h.columns car]
    · simp only [patchFirst, hid₁, hid₂, if_true, hasId_apply, Bool.false_eq_true, if_false]
    · simp only [patchFirst, hid₁, hid₂, if_true, hasId_apply, Bool.false_eq_true, if_false]
    · simp only [patchFirst, hid₁, hid₂, Bool.false_eq_true, if_false, ih]

/-- Patches that are apart can be made in either order. -/
theorem patched_comm (h : Apart id₁ p₁ id₂ p₂) (m : Memory) :
    (m.patched id₁ p₁).patched id₂ p₂ = (m.patched id₂ p₂).patched id₁ p₁ := by
  have hcars := patchFirst_comm h m.cars
  rw [patched, patched, patched, patched]
  dsimp only
  rw [hcars]

/-- Behind an update that is apart from it, an update is answered as without that, and the records are
those of the other order. -/
theorem updates_commute (h : Apart id₁ p₁ id₂ p₂) (m : Memory) :
    ((m.run (.updateById id₂ p₂)).2.run (.updateById id₁ p₁)).1 =
      (m.run (.updateById id₁ p₁)).1 ∧
    ((m.run (.updateById id₂ p₂)).2.run (.updateById id₁ p₁)).2 =
      ((m.run (.updateById id₁ p₁)).2.run (.updateById id₂ p₂)).2 := by
  have hconflict₁ := conflict?_patched m id₂ p₂ id₁ h.number
  have hconflict₂ := conflict?_patched m id₁ p₁ id₂ h.number.symm
  have hfind₁ := isSome_find?_patched m id₂ p₂ id₁
  cases hc₁ : m.conflict? id₁ p₁ with
  | some regNum₁ =>
    cases hc₂ : m.conflict? id₂ p₂ with
    | some regNum₂ => simp only [run_updateById_eq, hc₁, hc₂, and_self]
    | none => simp only [run_updateById_eq, hc₁, hc₂, hconflict₁, and_self]
  | none =>
    cases hc₂ : m.conflict? id₂ p₂ with
    | some regNum₂ => simp only [run_updateById_eq, hc₁, hc₂, hconflict₂, and_self]
    | none =>
      simp only [run_updateById_eq, hc₁, hc₂, hconflict₁, hconflict₂, hfind₁, true_and]
      exact (patched_comm h m).symm

/-- An update that succeeds leaves the patched record under its id. -/
theorem find?_of_run_updateById {m : Memory} {id : Int64} {patch : CarPatch} {answer : Answer}
    (h : (m.run (.updateById id patch)).1 = .ok answer) :
    ∃ car, m.find? id = some car ∧
      (m.run (.updateById id patch)).2.find? id = some (patch.apply car) := by
  rw [run_updateById_eq] at h ⊢
  cases hc : m.conflict? id patch with
  | some regNum =>
    rw [hc] at h
    cases h
  | none =>
    rw [hc] at h
    dsimp only at h ⊢
    cases hfind : m.find? id with
    | none =>
      rw [hfind] at h
      cases h
    | some car =>
      have hid : hasId id car = true := List.find?_some hfind
      refine ⟨car, rfl, ?_⟩
      rw [find?_patched, hfind, Option.map_some, if_pos hid]

/-- A look-up of the record finds in it what the patch writes. -/
def Shows (m : Memory) (id : Int64) (patch : CarPatch) : Prop :=
  ∃ car, m.find? id = some car ∧ ∀ a ∈ patch.assignments, car.value a.1 = a.2

theorem shows_of_run {m : Memory} {id : Int64} {patch : CarPatch} {answer : Answer}
    (h : (m.run (.updateById id patch)).1 = .ok answer) :
    Shows (m.run (.updateById id patch)).2 id patch := by
  obtain ⟨car, -, hcar⟩ := find?_of_run_updateById h
  refine ⟨patch.apply car, hcar, ?_⟩
  intro a ha
  rw [patch.value_apply, (patch.mem_assignments a.1 a.2).1 ha, Option.getD_some]

/-- What a patch wrote is still there behind an update that is apart from it. -/
theorem Shows.run_updateById {m : Memory} (hm : Shows m id₁ p₁) (h : Apart id₁ p₁ id₂ p₂) :
    Shows (m.run (.updateById id₂ p₂)).2 id₁ p₁ := by
  rw [run_updateById_eq]
  cases m.conflict? id₂ p₂ with
  | some regNum => exact hm
  | none =>
    -- The record that shows the first patch may be the one that the second patch is for.
    obtain ⟨car, hfind, hshows⟩ := hm
    refine ⟨if hasId id₂ car then p₂.apply car else car, ?_, ?_⟩
    · dsimp only
      rw [find?_patched, hfind, Option.map_some]
    · intro a ha
      split
      · next hid₂ =>
        have hsame : id₁ = id₂ := eq_of_hasId (List.find?_some hfind) hid₂
        subst hsame
        have hset := (p₁.mem_assignments a.1 a.2).1 ha
        have hfree : p₂.value? a.1 = none := by
          rcases h.columns a.1 with hnone | hnone
          · rw [hset] at hnone
            cases hnone
          · exact hnone
        rw [p₂.value_apply, hfree, Option.getD_none, hshows a ha]
      · exact hshows a ha

end Store.Memory

end VehicleRecords
