import Mathlib.Data.Finset.Card
import VehicleRecords.Proofs.Store.Records

/-!
What a batch brings into a store in memory: behind the records of before, the first record of each
registration number that was not stored (`exists_brings`). A second batch of the same numbers brings
nothing (`insert_of_stored`).
-/
namespace VehicleRecords.Store.Memory

/-- The store `m'` is `m` with the records `new` of the batch behind it. -/
structure Brings (m : Memory) (batch new : List Car) (m' : Memory) : Prop where
  behind : m'.cars = m.cars ++ new
  unstored : ∀ car ∈ new, car.regNum ∉ m.regNums
  distinct : (new.map (·.regNum)).Nodup
  first : ∀ car ∈ new, ∃ given, batch.find? (·.regNum == car.regNum) = some given ∧
    car = { given with id := car.id }
  covered : ∀ car ∈ batch, car.regNum ∈ m'.regNums

theorem insert_append_one (m : Memory) (batch : List Car) (car : Car) :
    m.insert (batch ++ [car]) = insertOne (m.insert batch) car := by
  rw [insert, insert, List.foldl_append, List.foldl_cons, List.foldl_nil]

namespace Brings

variable {m m' : Memory} {batch new : List Car}

theorem regNums_eq (h : Brings m batch new m') :
    m'.regNums = m.regNums ++ new.map (·.regNum) := by
  rw [regNums, h.behind, List.map_append, regNums]

theorem nil (m : Memory) : Brings m [] [] m where
  behind := (List.append_nil _).symm
  unstored := by simp
  distinct := List.nodup_nil
  first := by simp
  covered := by simp

/-- What was the first record with its number is so still in front of one more record. -/
theorem first_append (h : Brings m batch new m') (car : Car) :
    ∀ c ∈ new, ∃ given, (batch ++ [car]).find? (·.regNum == c.regNum) = some given ∧
      c = { given with id := c.id } := by
  intro c hc
  obtain ⟨given, hgiven, hid⟩ := h.first c hc
  refine ⟨given, ?_, hid⟩
  rw [List.find?_append, hgiven, Option.some_or]

/-- A record whose number is stored by then brings nothing more. -/
theorem append_stored (h : Brings m batch new m') {car : Car} (hcar : car.regNum ∈ m'.regNums) :
    Brings m (batch ++ [car]) new m' := by
  refine ⟨h.behind, h.unstored, h.distinct, h.first_append car, ?_⟩
  intro c hc
  rcases List.mem_append.1 hc with hc | hc
  · exact h.covered c hc
  · rw [List.mem_singleton.1 hc]
    exact hcar

/-- A record whose number is not stored by then is put behind the others. -/
theorem append_new (h : Brings m batch new m') {car : Car} (hcar : car.regNum ∉ m'.regNums) :
    Brings m (batch ++ [car]) (new ++ [{ car with id := m'.lastId + 1 }]) (m'.push car) := by
  have hregNums := h.regNums_eq
  rw [hregNums, List.mem_append, not_or] at hcar
  obtain ⟨hstored, hnew⟩ := hcar
  refine ⟨?_, ?_, ?_, ?_, ?_⟩
  · rw [push, h.behind, List.append_assoc]
  · intro c hc
    rcases List.mem_append.1 hc with hc | hc
    · exact h.unstored c hc
    · rw [List.mem_singleton.1 hc]
      exact hstored
  · rw [List.map_append, List.map_singleton, List.nodup_append]
    refine ⟨h.distinct, List.pairwise_singleton _ _, ?_⟩
    intro a ha b hb hab
    rw [hab, List.mem_singleton.1 hb] at ha
    exact hnew ha
  · intro c hc
    rcases List.mem_append.1 hc with hc | hc
    · exact h.first_append car c hc
    · -- All numbers of the earlier records are stored, so this is the first one with its number.
      have hnone : batch.find? (·.regNum == car.regNum) = none := by
        rw [List.find?_eq_none]
        intro c hc heq
        have hmem := h.covered c hc
        rw [hregNums, List.mem_append, beq_iff_eq.1 heq] at hmem
        exact hmem.elim hstored hnew
      rw [List.mem_singleton.1 hc]
      refine ⟨car, ?_, rfl⟩
      rw [List.find?_append, hnone, Option.none_or]
      simp
  · intro c hc
    rw [regNums_push, List.mem_append, List.mem_singleton]
    rcases List.mem_append.1 hc with hc | hc
    · exact .inl (h.covered c hc)
    · rw [List.mem_singleton.1 hc]
      exact .inr rfl

end Brings

/-- What an insertion brings in, and that it counts it. -/
theorem exists_brings (m : Memory) (batch : List Car) :
    ∃ new, Brings m batch new (m.insert batch).1 ∧ (m.insert batch).2 = new.length := by
  -- The induction takes the last record away, for it meets the store that the others leave.
  induction batch using List.reverseRecOn with
  | nil => exact ⟨[], Brings.nil m, rfl⟩
  | append_singleton batch car ih =>
    obtain ⟨new, hnew, hcount⟩ := ih
    rw [insert_append_one]
    rcases insertOne_cases (m.insert batch).1 (m.insert batch).2 car with
      ⟨hcar, heq⟩ | ⟨hcar, heq⟩
    · refine ⟨new, ?_, ?_⟩
      · rw [heq]
        exact hnew.append_stored hcar
      · rw [heq]
        exact hcount
    · refine ⟨new ++ [{ car with id := (m.insert batch).1.lastId + 1 }], ?_, ?_⟩
      · rw [heq]
        exact hnew.append_new hcar
      · rw [heq, List.length_append, List.length_singleton, hcount]

namespace Brings

variable {m m' : Memory} {batch new : List Car}

/-- What is new are the numbers of the batch that were not stored. -/
theorem mem_regNums_iff (h : Brings m batch new m') (regNum : String) :
    regNum ∈ new.map (·.regNum) ↔
      regNum ∈ batch.map (·.regNum) ∧ regNum ∉ m.regNums := by
  constructor
  · intro hmem
    obtain ⟨car, hcar, rfl⟩ := List.mem_map.1 hmem
    obtain ⟨given, hgiven, hid⟩ := h.first car hcar
    have hregNum : car.regNum = given.regNum := by rw [hid]
    have hgivenMem := List.mem_of_find?_eq_some hgiven
    exact ⟨hregNum ▸ List.mem_map_of_mem hgivenMem, h.unstored car hcar⟩
  · rintro ⟨hmem, hstored⟩
    obtain ⟨car, hcar, rfl⟩ := List.mem_map.1 hmem
    have hcovered := h.covered car hcar
    rw [h.regNums_eq, List.mem_append] at hcovered
    exact hcovered.resolve_left hstored

/-- As many records are new as there are numbers in the batch that were not stored. -/
theorem length_eq_card (h : Brings m batch new m') :
    new.length = ((batch.map (·.regNum)).toFinset \ m.regNums.toFinset).card := by
  have hset : (batch.map (·.regNum)).toFinset \ m.regNums.toFinset =
      (new.map (·.regNum)).toFinset := by
    ext regNum
    rw [Finset.mem_sdiff, List.mem_toFinset, List.mem_toFinset, List.mem_toFinset,
      h.mem_regNums_iff]
  rw [hset, List.toFinset_card_of_nodup h.distinct, List.length_map]

theorem nodup_regNums (h : Brings m batch new m') (hm : m.regNums.Nodup) : m'.regNums.Nodup := by
  rw [h.regNums_eq, List.nodup_append]
  refine ⟨hm, h.distinct, ?_⟩
  intro a ha b hb hab
  obtain ⟨car, hcar, hregNum⟩ := List.mem_map.1 hb
  apply h.unstored car hcar
  rwa [hregNum, ← hab]

end Brings

theorem count_insert (m : Memory) (batch : List Car) :
    (m.insert batch).2 = ((batch.map (·.regNum)).toFinset \ m.regNums.toFinset).card := by
  obtain ⟨new, hnew, hcount⟩ := m.exists_brings batch
  exact hcount.trans hnew.length_eq_card

/-- More records bring at least as many new ones. -/
theorem count_insert_le {m : Memory} {batch batch' : List Car} (h : ∀ car ∈ batch, car ∈ batch') :
    (m.insert batch).2 ≤ (m.insert batch').2 := by
  rw [count_insert, count_insert]
  apply Finset.card_le_card
  apply Finset.sdiff_subset_sdiff _ (Finset.Subset.refl _)
  intro regNum
  rw [List.mem_toFinset, List.mem_toFinset]
  exact fun hmem => List.map_subset _ h hmem

/-- Records whose numbers are all stored change nothing. -/
theorem insert_of_stored (m : Memory) (batch : List Car)
    (h : ∀ car ∈ batch, car.regNum ∈ m.regNums) : m.insert batch = (m, 0) := by
  rw [insert]
  induction batch with
  | nil => rfl
  | cons car batch ih =>
    have hcar := h car List.mem_cons_self
    have hone : insertOne (m, 0) car = (m, 0) := by
      rcases insertOne_cases m 0 car with ⟨_, heq⟩ | ⟨hcar', _⟩
      · exact heq
      · exact absurd hcar hcar'
    rw [List.foldl_cons, hone]
    exact ih fun c hc => h c (List.mem_cons_of_mem car hc)

end VehicleRecords.Store.Memory
