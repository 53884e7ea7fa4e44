import VehicleRecords.Proofs.Store.Pieces

/-!
The end of the ids. An insertion overflows when its new records need an id behind the greatest one
(`overflows_insert_iff`); up to there it takes the last id on by as many as it inserts.
-/
namespace VehicleRecords.Store.Memory

theorem toInt_add_one {id : Int32} (h : id ≠ Int32.maxValue) : (id + 1).toInt = id.toInt + 1 := by
  have hone : (1 : Int32).toInt = 1 := rfl
  have hmax : Int32.maxValue.toInt = 2147483647 := rfl
  have hne : id.toInt ≠ 2147483647 := by
    rw [← hmax, ne_eq, Int32.toInt_inj]
    exact h
  have hle := id.toInt_le
  have hge := id.le_toInt
  rw [Int32.toInt_add, hone, Int.bmod_eq_of_le]
  · omega
  · omega

/-- `insertOne_cases`, where a new record may find no id left. -/
theorem insertOne?_cases (m : Memory) (count : Nat) (car : Car) :
    (insertOne (m, count) car = (m, count) ∧ insertOne? (m, count) car = some (m, count)) ∨
    (insertOne (m, count) car = (m.push car, count + 1) ∧
      ((m.lastId = Int32.maxValue ∧ insertOne? (m, count) car = none) ∨
        (m.lastId ≠ Int32.maxValue ∧
          insertOne? (m, count) car = some (m.push car, count + 1)))) := by
  have hany : (m.cars.any (·.regNum == car.regNum) = true) ↔ car.regNum ∈ m.regNums := by
    simp only [List.any_eq_true, beq_iff_eq, regNums, List.mem_map]
  rcases insertOne_cases m count car with ⟨hcar, heq⟩ | ⟨hcar, heq⟩
  · rw [← hany] at hcar
    refine .inl ⟨heq, ?_⟩
    rw [insertOne?, hcar, Bool.not_true, Bool.and_false, heq]
    rfl
  · rw [← hany, Bool.not_eq_true] at hcar
    refine .inr ⟨heq, ?_⟩
    rw [insertOne?, hcar, Bool.not_false, Bool.and_true, heq]
    by_cases hlast : m.lastId = Int32.maxValue
    · exact .inl ⟨hlast, if_pos (beq_iff_eq.2 hlast)⟩
    · exact .inr ⟨hlast, if_neg (mt beq_iff_eq.1 hlast)⟩

theorem insert?_append_one (m : Memory) (batch : List Car) (car : Car) :
    m.insert? (batch ++ [car]) = (m.insert? batch).bind (insertOne? · car) := by
  rw [insert?, insert?, List.foldlM_append]
  congr 1
  funext acc
  rw [List.foldlM_cons]
  exact bind_pure _

/-- Either there are as many ids left as the batch has new records, and the last one moves on by so
many, or the insertion overflows. -/
theorem insert?_cases (m : Memory) (batch : List Car) :
    (m.lastId.toInt + (m.insert batch).2 ≤ 2147483647 ∧ m.insert? batch = some (m.insert batch) ∧
      (m.insert batch).1.lastId.toInt = m.lastId.toInt + (m.insert batch).2) ∨
    (2147483647 < m.lastId.toInt + (m.insert batch).2 ∧ m.insert? batch = none) := by
  -- The induction takes the last record away, for it meets the store that the others leave.
  induction batch using List.reverseRecOn with
  | nil =>
    have hnone : m.lastId.toInt + (m.insert []).2 = m.lastId.toInt := Int.add_zero _
    rw [hnone]
    exact .inl ⟨m.lastId.toInt_le, rfl, rfl⟩
  | append_singleton batch car ih =>
    rw [insert_append_one, insert?_append_one]
    rcases ih with ⟨hfits, hbatch, hlast⟩ | ⟨hover, hbatch⟩
    · rw [hbatch, Option.bind_some]
      rcases insertOne?_cases (m.insert batch).1 (m.insert batch).2 car with
        ⟨heq, hchecked⟩ | ⟨heq, ⟨hmax, hchecked⟩ | ⟨hmax, hchecked⟩⟩
      · rw [heq, hchecked]
        exact .inl ⟨hfits, rfl, hlast⟩
      · have htop : m.lastId.toInt + (m.insert batch).2 = 2147483647 := by
          rw [← hlast, hmax]
          rfl
        rw [heq, hchecked]
        refine .inr ⟨?_, rfl⟩
        omega
      · have hnext := toInt_add_one hmax
        have hbelow : (m.insert batch).1.lastId.toInt ≠ 2147483647 :=
          fun htop => hmax (Int32.toInt_inj.1 htop)
        rw [heq, hchecked]
        refine .inl ⟨?_, rfl, ?_⟩
        · omega
        · rw [lastId_push, hnext, hlast]
          omega
    · have hgrows : (m.insert batch).2 ≤ (insertOne (m.insert batch) car).2 := by
        rcases insertOne_cases (m.insert batch).1 (m.insert batch).2 car with
          ⟨_, heq⟩ | ⟨_, heq⟩
        · rw [heq]
        · rw [heq]
          exact Nat.le_succ _
      rw [hbatch]
      refine .inr ⟨?_, rfl⟩
      omega

/-- An insertion overflows when its new records need an id behind the greatest one. -/
theorem overflows_insert_iff (m : Memory) (batch : List Car) :
    m.overflows (.insert batch) = true ↔ 2147483647 < m.lastId.toInt + (m.insert batch).2 := by
  rw [overflows]
  rcases m.insert?_cases batch with ⟨hfits, hinsert, _⟩ | ⟨hover, hinsert⟩
  · rw [hinsert]
    exact iff_of_false Bool.false_ne_true (Int.not_lt.2 hfits)
  · rw [hinsert]
    exact iff_of_true rfl hover

/-- Otherwise it takes the last id on by as many as it inserts. -/
theorem toInt_lastId_insert {m : Memory} {batch : List Car}
    (h : m.lastId.toInt + (m.insert batch).2 ≤ 2147483647) :
    (m.insert batch).1.lastId.toInt = m.lastId.toInt + (m.insert batch).2 := by
  rcases m.insert?_cases batch with ⟨_, _, hlast⟩ | ⟨hover, _⟩
  · exact hlast
  · exact absurd h (Int.not_le.2 hover)

end VehicleRecords.Store.Memory
