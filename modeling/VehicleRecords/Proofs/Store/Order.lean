import Mathlib.Data.List.Perm.Lattice
import VehicleRecords.Proofs.Store.Batch

namespace VehicleRecords

def Car.withoutId (car : Car) : Car := { car with id := 0 }

namespace Store.Memory

/-- Records of one number are the same record, up to the ids. -/
def Coherent (batch : List Car) : Prop :=
  ∀ a ∈ batch, ∀ b ∈ batch, a.regNum = b.regNum → a.withoutId = b.withoutId

namespace Brings

variable {m m' : Memory} {batch new : List Car}

theorem nodup_withoutId (h : Brings m batch new m') : (new.map Car.withoutId).Nodup := by
  have hregNums : (new.map Car.withoutId).map (·.regNum) = new.map (·.regNum) := by
    rw [List.map_map]
    rfl
  apply List.Nodup.of_map (·.regNum)
  rw [hregNums]
  exact h.distinct

/-- The records brought in are those of the batch whose numbers were not stored. -/
theorem mem_withoutId_iff (h : Brings m batch new m') (hbatch : Coherent batch) (car : Car) :
    car ∈ new.map Car.withoutId ↔
      ∃ given ∈ batch, given.regNum ∉ m.regNums ∧ given.withoutId = car := by
  constructor
  · intro hcar
    obtain ⟨stored, hstored, rfl⟩ := List.mem_map.1 hcar
    obtain ⟨given, hgiven, hid⟩ := h.first stored hstored
    have hregNum : given.regNum = stored.regNum := by rw [hid]
    refine ⟨given, List.mem_of_find?_eq_some hgiven, ?_, ?_⟩
    · rw [hregNum]
      exact h.unstored stored hstored
    · rw [hid]
      rfl
  · rintro ⟨given, hgiven, hfree, rfl⟩
    have hnumber : given.regNum ∈ new.map (·.regNum) :=
      (h.mem_regNums_iff given.regNum).2 ⟨List.mem_map_of_mem hgiven, hfree⟩
    obtain ⟨stored, hstored, hregNum⟩ := List.mem_map.1 hnumber
    -- The first record with the number was stored, and the given one is the same.
    obtain ⟨first, hfirst, hid⟩ := h.first stored hstored
    have hsame : first.withoutId = given.withoutId := by
      apply hbatch first (List.mem_of_find?_eq_some hfirst) given hgiven
      rw [← hregNum, hid]
    rw [← hsame]
    refine List.mem_map.2 ⟨stored, hstored, ?_⟩
    rw [hid]
    rfl

end Brings

/-- Two batches of the same records leave the same records, up to the ids, and are counted the
same. -/
theorem insert_of_same_records (m : Memory) {batch batch' : List Car} (hbatch : Coherent batch)
    (hsame : ∀ car, car ∈ batch ↔ car ∈ batch') :
    (m.insert batch).2 = (m.insert batch').2 ∧
    ((m.insert batch).1.cars.map Car.withoutId).Perm
      ((m.insert batch').1.cars.map Car.withoutId) := by
  have hbatch' : Coherent batch' := by
    intro a ha b hb
    exact hbatch a ((hsame a).2 ha) b ((hsame b).2 hb)
  obtain ⟨new, hnew, hcount⟩ := m.exists_brings batch
  obtain ⟨new', hnew', hcount'⟩ := m.exists_brings batch'
  have hperm : (new.map Car.withoutId).Perm (new'.map Car.withoutId) := by
    rw [List.perm_ext_iff_of_nodup hnew.nodup_withoutId hnew'.nodup_withoutId]
    intro car
    rw [hnew.mem_withoutId_iff hbatch, hnew'.mem_withoutId_iff hbatch']
    simp only [hsame]
  constructor
  · have hlength := hperm.length_eq
    rwa [List.length_map, List.length_map, ← hcount, ← hcount'] at hlength
  · rw [hnew.behind, hnew'.behind, List.map_append, List.map_append]
    exact hperm.append_left _

end Store.Memory

end VehicleRecords
