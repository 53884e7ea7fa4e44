import VehicleRecords.Store.Memory

/-!
What every operation keeps of a store in memory: no registration number is stored twice, and the ids
grow in store order and were all handed out. The invariant counts the records inserted, for an id is
new only as long as fewer than `2 ^ 31` were handed out (`consistent_run`).
-/
namespace VehicleRecords.Store.Memory

def regNums (m : Memory) : List String := m.cars.map (·.regNum)

def ids (m : Memory) : List Int32 := m.cars.map (·.id)

/-- A store without doubles into which `inserted` records were put. -/
structure Consistent (inserted : Nat) (m : Memory) : Prop where
  counted : m.lastId.toInt = inserted
  unique : m.regNums.Nodup
  increasing : m.ids.Pairwise (· < ·)
  positive : ∀ id ∈ m.ids, 1 ≤ id
  issued : ∀ id ∈ m.ids, id ≤ m.lastId

theorem consistent_empty : Consistent 0 {} where
  counted := rfl
  unique := List.nodup_nil
  increasing := List.Pairwise.nil
  positive := by simp [ids]
  issued := by simp [ids]

def added (m : Memory) : Operation → Nat
  | .insert cars => (m.insert cars).2
  | _ => 0

/-! ## Insertion -/

def push (m : Memory) (car : Car) : Memory :=
  ⟨m.cars ++ [{ car with id := m.lastId + 1 }], m.lastId + 1⟩

@[simp] theorem lastId_push (m : Memory) (car : Car) : (m.push car).lastId = m.lastId + 1 := rfl

@[simp] theorem length_push (m : Memory) (car : Car) :
    (m.push car).cars.length = m.cars.length + 1 := by simp [push]

@[simp] theorem regNums_push (m : Memory) (car : Car) :
    (m.push car).regNums = m.regNums ++ [car.regNum] := by simp [push, regNums]

@[simp] theorem ids_push (m : Memory) (car : Car) :
    (m.push car).ids = m.ids ++ [m.lastId + 1] := by simp [push, ids]

/-- One record is either refused, its number being stored, or put behind the others. -/
theorem insertOne_cases (m : Memory) (count : Nat) (car : Car) :
    (car.regNum ∈ m.regNums ∧ insertOne (m, count) car = (m, count)) ∨
    (car.regNum ∉ m.regNums ∧ insertOne (m, count) car = (m.push car, count + 1)) := by
  have hany : (m.cars.any (·.regNum == car.regNum) = true) ↔ car.regNum ∈ m.regNums := by
    simp only [List.any_eq_true, beq_iff_eq, regNums, List.mem_map]
  by_cases h : car.regNum ∈ m.regNums
  · exact .inl ⟨h, by simp only [insertOne, if_pos (hany.2 h)]⟩
  · exact .inr ⟨h, by simp only [insertOne, if_neg fun hm => h (hany.1 hm), push]⟩

theorem toInt_nextId {id : Int32} {n : Nat} (h : id.toInt = n) (hn : n + 1 < 2147483648) :
    (id + 1).toInt = (n + 1 : Nat) := by
  have hone : (1 : Int32).toInt = 1 := rfl
  -- Below the greatest id the addition does not wrap.
  rw [Int32.toInt_add, h, hone, Int.bmod_eq_of_le]
  · omega
  · omega
  · omega

/-- The next id is greater than all ids so far, as long as the counter does not wrap. -/
theorem consistent_push {n : Nat} {m : Memory} (h : m.Consistent n) (hn : n + 1 < 2147483648)
    (car : Car) (hcar : car.regNum ∉ m.regNums) : (m.push car).Consistent (n + 1) := by
  have hnext := toInt_nextId h.counted hn
  have hlast : m.lastId < m.lastId + 1 := by
    rw [Int32.lt_iff_toInt_lt, hnext, h.counted]
    omega
  have hpositive : 1 ≤ m.lastId + 1 := by
    have hone : (1 : Int32).toInt = 1 := rfl
    rw [Int32.le_iff_toInt_le, hnext, hone]
    omega
  -- The new id exceeds every id in use, for those are at most the last one handed out.
  have habove : ∀ id ∈ m.ids, id < m.lastId + 1 := by
    intro id hid
    exact Int32.lt_of_le_of_lt (h.issued id hid) hlast
  refine ⟨hnext, ?_, ?_, ?_, ?_⟩
  · rw [regNums_push, List.nodup_append]
    refine ⟨h.unique, List.pairwise_singleton _ _, ?_⟩
    intro a ha b hb hab
    rw [List.mem_singleton] at hb
    apply hcar
    rwa [← hb, ← hab]
  · rw [ids_push, List.pairwise_append]
    refine ⟨h.increasing, List.pairwise_singleton _ _, ?_⟩
    intro a ha b hb
    rw [List.mem_singleton.1 hb]
    exact habove a ha
  · rw [ids_push]
    intro id hid
    rcases List.mem_append.1 hid with hid | hid
    · exact h.positive id hid
    · rw [List.mem_singleton.1 hid]
      exact hpositive
  · rw [ids_push, lastId_push]
    intro id hid
    rcases List.mem_append.1 hid with hid | hid
    · exact Int32.le_of_lt (habove id hid)
    · rw [List.mem_singleton.1 hid]
      exact Int32.le_refl _

theorem length_foldl_insertOne (cars : List Car) (m : Memory) (count : Nat) :
    count ≤ (cars.foldl insertOne (m, count)).2 ∧
    (cars.foldl insertOne (m, count)).1.cars.length + count =
      m.cars.length + (cars.foldl insertOne (m, count)).2 := by
  induction cars generalizing m count with
  | nil => simp
  | cons car cars ih =>
    rw [List.foldl_cons]
    rcases insertOne_cases m count car with ⟨_, heq⟩ | ⟨_, heq⟩
    · rw [heq]
      exact ih m count
    · rw [heq]
      have ih := ih (m.push car) (count + 1)
      rw [length_push] at ih
      omega

theorem length_insert (m : Memory) (cars : List Car) :
    (m.insert cars).1.cars.length = m.cars.length + (m.insert cars).2 :=
  (length_foldl_insertOne cars m 0).2

theorem consistent_foldl_insertOne {n : Nat} (cars : List Car) (m : Memory) (count : Nat)
    (h : m.Consistent (n + count))
    (hn : n + (cars.foldl insertOne (m, count)).2 < 2147483648) :
    (cars.foldl insertOne (m, count)).1.Consistent (n + (cars.foldl insertOne (m, count)).2) := by
  -- The induction is on the rest of the batch, from which `count` records were taken already.
  induction cars generalizing m count with
  | nil => exact h
  | cons car cars ih =>
    rw [List.foldl_cons] at hn ⊢
    rcases insertOne_cases m count car with ⟨_, heq⟩ | ⟨hcar, heq⟩
    · rw [heq] at hn ⊢
      exact ih m count h hn
    · rw [heq] at hn ⊢
      have hgrows := (length_foldl_insertOne cars (m.push car) (count + 1)).1
      have hfree : n + count + 1 < 2147483648 := by omega
      exact ih (m.push car) (count + 1) (consistent_push h hfree car hcar) hn

/-! ## Patches and deletion -/

theorem hasId_iff (id : Int64) (car : Car) : hasId id car = true ↔ car.id.toInt64 = id := by
  rw [hasId, beq_iff_eq]

theorem id_eq_of_hasId {id : Int64} {a b : Car} (ha : hasId id a = true) (hb : hasId id b = true) :
    a.id = b.id := by
  rw [hasId_iff] at ha hb
  rw [← Int32.toInt_inj, ← Int32.toInt_toInt64, ← Int32.toInt_toInt64, ha, hb]

theorem ids_patchFirst (id : Int64) (patch : CarPatch) (cars : List Car) :
    (patchFirst id patch cars).map (·.id) = cars.map (·.id) := by
  induction cars with
  | nil => rfl
  | cons car cars ih =>
    rw [patchFirst]
    split
    · rfl
    · rw [List.map_cons, ih, List.map_cons]

/-- Where ids are not repeated, the patch concerns every record with the id. -/
theorem patchFirst_eq_map (id : Int64) (patch : CarPatch) (cars : List Car)
    (h : (cars.map (·.id)).Nodup) :
    patchFirst id patch cars = cars.map fun car => if hasId id car then patch.apply car else car := by
  induction cars with
  | nil => rfl
  | cons car cars ih =>
    rw [List.map_cons, List.nodup_cons] at h
    rw [patchFirst, List.map_cons]
    split
    · next hid =>
      have hrest : ∀ c ∈ cars, (if hasId id c then patch.apply c else c) = c := by
        intro c hc
        rw [if_neg]
        intro hcid
        exact h.1 (List.mem_map.2 ⟨c, hc, id_eq_of_hasId hcid hid⟩)
      rw [List.map_congr_left hrest, List.map_id']
    · rw [ih h.2]

/-- Without a conflict, a number that the patch sets belongs to the patched record at most. -/
theorem hasId_of_conflict_none {m : Memory} {id : Int64} {patch : CarPatch} {regNum : String}
    (h : m.conflict? id patch = none) (hp : patch.regNum = some regNum) :
    ∀ car ∈ m.cars, car.regNum = regNum → hasId id car = true := by
  simpa [conflict?, hp] using h

def patchedRegNum (id : Int64) (patch : CarPatch) (car : Car) : String :=
  if hasId id car then patch.regNum.getD car.regNum else car.regNum

theorem patchedRegNum_ne {m : Memory} {id : Int64} {patch : CarPatch}
    (h : m.conflict? id patch = none) {a b : Car} (ha : a ∈ m.cars) (hb : b ∈ m.cars)
    (hid : a.id ≠ b.id) (hregNum : a.regNum ≠ b.regNum) :
    patchedRegNum id patch a ≠ patchedRegNum id patch b := by
  rw [patchedRegNum, patchedRegNum]
  -- At most one of the two has the patched id, and the other one keeps its number, which is not the
  -- one set.
  by_cases hia : hasId id a = true
  · have hib : ¬ hasId id b = true := fun hib => hid (id_eq_of_hasId hia hib)
    rw [if_pos hia, if_neg hib]
    cases hp : patch.regNum with
    | none => exact hregNum
    | some r => exact fun hr => hib (hasId_of_conflict_none h hp b hb hr.symm)
  · rw [if_neg hia]
    by_cases hib : hasId id b = true
    · rw [if_pos hib]
      cases hp : patch.regNum with
      | none => exact hregNum
      | some r => exact fun hr => hia (hasId_of_conflict_none h hp a ha hr)
    · rw [if_neg hib]
      exact hregNum

/-- A patch leaves the ids, and without a conflict its number is nobody else's. -/
theorem consistent_patchFirst {n : Nat} {m : Memory} (h : m.Consistent n) {id : Int64}
    {patch : CarPatch} (hc : m.conflict? id patch = none) :
    Consistent n { m with cars := patchFirst id patch m.cars } := by
  have hids : ids { m with cars := patchFirst id patch m.cars } = m.ids := ids_patchFirst id patch _
  have hnodup : (m.cars.map (·.id)).Nodup := h.increasing.imp fun hlt => Int32.ne_of_lt hlt
  -- The ids are those of before, so only the numbers have to be looked at.
  refine ⟨h.counted, ?_, hids ▸ h.increasing, hids ▸ h.positive, hids ▸ h.issued⟩
  have hregNums : regNums { m with cars := patchFirst id patch m.cars } =
      m.cars.map (patchedRegNum id patch) := by
    rw [regNums, patchFirst_eq_map id patch m.cars hnodup, List.map_map]
    refine List.map_congr_left fun car _ => ?_
    rw [Function.comp_apply, patchedRegNum]
    split <;> rfl
  rw [hregNums, List.Nodup, List.pairwise_map]
  refine List.Pairwise.imp_of_mem ?_
    ((List.pairwise_map.1 hnodup).and (List.pairwise_map.1 h.unique))
  intro a b ha hb hab
  exact patchedRegNum_ne hc ha hb hab.1 hab.2

theorem consistent_filter {n : Nat} {m : Memory} (h : m.Consistent n) (keep : Car → Bool) :
    Consistent n { m with cars := m.cars.filter keep } := by
  have hids : List.Sublist (ids { m with cars := m.cars.filter keep }) m.ids :=
    List.filter_sublist.map _
  exact ⟨h.counted, h.unique.sublist (List.filter_sublist.map _), h.increasing.sublist hids,
    fun id hid => h.positive id (hids.subset hid), fun id hid => h.issued id (hids.subset hid)⟩

/-! ## All operations -/

/-- An operation that fails leaves the records as they were. -/
theorem run_error {m : Memory} {op : Operation} {e : Error} (h : (m.run op).1 = .error e) :
    (m.run op).2 = m := by
  cases op with
  | insert cars => cases h
  | getById id => rw [run]; split <;> rfl
  | query filter pagination => rfl
  | updateById id patch =>
    rw [run] at h ⊢
    split
    · rfl
    · split
      · -- A record is found and patched, which is no failure.
        next hc _ _ hf =>
        rw [hc] at h
        dsimp only at h
        rw [hf] at h
        cases h
      · rfl
  | deleteById id =>
    rw [run] at h ⊢
    split
    · next hf =>
      rw [hf] at h
      cases h
    · rfl

/-- The invariant is kept by every operation that leaves an id for the records it adds. -/
theorem consistent_run {n : Nat} {m : Memory} (h : m.Consistent n) (op : Operation)
    (hn : n + m.added op < 2147483648) : (m.run op).2.Consistent (n + m.added op) := by
  cases op with
  | insert cars => exact consistent_foldl_insertOne cars m 0 h hn
  | getById id =>
    rw [run]
    split <;> exact h
  | query filter pagination => exact h
  | updateById id patch =>
    rw [run]
    split
    · exact h
    · next hc =>
      split
      · exact consistent_patchFirst h hc
      · exact h
  | deleteById id =>
    rw [run]
    split
    · exact consistent_filter h _
    · exact h

end VehicleRecords.Store.Memory
