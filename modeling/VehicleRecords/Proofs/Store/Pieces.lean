import Mathlib.Algebra.Ring.Nat
import VehicleRecords.Proofs.Sql.Batches
import VehicleRecords.Proofs.Store.Batch
import VehicleRecords.Proofs.Store.Exec

namespace VehicleRecords.Store

namespace Memory

/-- The count goes on from where it stood; the records do not depend on it. -/
theorem foldl_insertOne_eq (cars : List Car) (m : Memory) (count : Nat) :
    cars.foldl insertOne (m, count) = ((m.insert cars).1, count + (m.insert cars).2) := by
  induction cars generalizing m count with
  | nil => rfl
  | cons car cars ih =>
    rw [insert, List.foldl_cons, List.foldl_cons]
    rcases insertOne_cases m count car with ⟨hcar, heq⟩ | ⟨hcar, heq⟩
    · rcases insertOne_cases m 0 car with ⟨_, hzero⟩ | ⟨hnew, _⟩
      · rw [heq, hzero, ih, ih m 0, Nat.zero_add]
      · exact absurd hcar hnew
    · rcases insertOne_cases m 0 car with ⟨hstored, _⟩ | ⟨_, hzero⟩
      · exact absurd hstored hcar
      · have hcount : count + 1 + ((m.push car).insert cars).2 =
            count + (0 + 1 + ((m.push car).insert cars).2) := by omega
        rw [heq, hzero, ih, ih _ (0 + 1), hcount]

/-- The second part of a batch is inserted into the store that the first part leaves. -/
theorem insert_append (m : Memory) (front back : List Car) :
    m.insert (front ++ back) = (((m.insert front).1.insert back).1,
      (m.insert front).2 + ((m.insert front).1.insert back).2) := by
  have hfront : front.foldl insertOne (m, 0) = m.insert front := rfl
  rw [insert, List.foldl_append, hfront]
  exact foldl_insertOne_eq back (m.insert front).1 (m.insert front).2

end Memory

namespace LoggedMemory

theorem exec_insert (m : LoggedMemory) {cars : List Car} (h : cars ≠ []) :
    ∃ compiled, exec (.insert cars) m = (.ok (.count (m.memory.insert cars).2),
      ⟨(m.memory.insert cars).1, ⟨.insert cars, compiled⟩ :: m.log⟩) := by
  obtain ⟨compiled, hcompile, _⟩ := Sql.compile_insert "cars" [] h
  refine ⟨compiled, ?_⟩
  rw [exec, hcompile]
  rfl

/-- Pieces inserted one after another come to what their records in one batch come to. -/
theorem exec_pieces (pieces : List (List Car)) (h : ∀ piece ∈ pieces, piece ≠ [])
    (m : LoggedMemory) :
    ∃ (counts : List Nat) (t : LoggedMemory),
      (pieces.mapM fun piece => exec (.insert piece)) m = (.ok (counts.map .count), t) ∧
      m.memory.insert pieces.flatten = (t.memory, counts.sum) ∧
      t.log.map (·.operation) = (pieces.map .insert).reverse ++ m.log.map (·.operation) := by
  -- The induction is on the pieces that are left, whatever store the others have left.
  induction pieces generalizing m with
  | nil => exact ⟨[], m, rfl, rfl, rfl⟩
  | cons piece pieces ih =>
    rw [List.forall_mem_cons] at h
    obtain ⟨compiled, hpiece⟩ := exec_insert m h.1
    obtain ⟨counts, t, hrun, hinsert, hlog⟩ :=
      ih h.2 ⟨(m.memory.insert piece).1, ⟨.insert piece, compiled⟩ :: m.log⟩
    refine ⟨(m.memory.insert piece).2 :: counts, t, ?_, ?_, ?_⟩
    · rw [List.mapM_cons, StoreM.bind_apply, hpiece]
      dsimp only
      rw [StoreM.bind_apply, hrun]
      rfl
    · rw [List.flatten_cons, Memory.insert_append, hinsert, List.sum_cons]
    · rw [hlog, List.map_cons, List.map_cons, List.reverse_cons, List.append_assoc]
      rfl

/-- A batch inserted chunk by chunk leaves the records, their ids and the last id of one insertion of
the whole batch, and the counts of the chunks add up to its count. -/
theorem insert_in_chunks (m : LoggedMemory) {cars : List Car} (hcars : cars ≠ []) :
    ∃ (counts : List Nat) (count : Nat) (chunked whole : LoggedMemory),
      ((Sql.insertChunks cars).mapM fun chunk => exec (.insert chunk)) m =
        (.ok (counts.map .count), chunked) ∧
      exec (.insert cars) m = (.ok (.count count), whole) ∧
      chunked.memory = whole.memory ∧ counts.sum = count ∧
      chunked.log.map (·.operation) =
        ((Sql.insertChunks cars).map .insert).reverse ++ m.log.map (·.operation) := by
  obtain ⟨counts, chunked, hrun, hinsert, hlog⟩ :=
    exec_pieces (Sql.insertChunks cars) (Sql.ne_nil_of_mem_insertChunks hcars) m
  obtain ⟨compiled, hwhole⟩ := exec_insert m hcars
  rw [Sql.flatten_insertChunks] at hinsert
  refine ⟨counts, _, chunked, _, hrun, hwhole, ?_, ?_, hlog⟩
  · rw [hinsert]
  · rw [hinsert]

def sameNumbers : List Car := List.replicate (Sql.maxInsertRows + 1) { regNum := "A1" }

theorem insert_sameNumbers :
    Memory.insert {} sameNumbers = (⟨[{ id := 1, regNum := "A1" }], 1⟩, 1) := by
  have hfirst : sameNumbers = [{ regNum := "A1" }] ++
      List.replicate Sql.maxInsertRows { regNum := "A1" } := rfl
  have hone : Memory.insert {} [{ regNum := "A1" }] = (⟨[{ id := 1, regNum := "A1" }], 1⟩, 1) := rfl
  have hrest : Memory.insert ⟨[{ id := 1, regNum := "A1" }], 1⟩
      (List.replicate Sql.maxInsertRows { regNum := "A1" }) =
      (⟨[{ id := 1, regNum := "A1" }], 1⟩, 0) := by
    apply Memory.insert_of_stored
    intro car hcar
    rw [List.eq_of_mem_replicate hcar]
    exact List.mem_cons_self
  rw [hfirst, Memory.insert_append, hone, hrest]
  rfl

/-- The number in the second chunk is that of a record that the first chunk brought in. -/
theorem insert_sameNumbers_in_chunks :
    sameNumbers ≠ [] ∧ (Sql.insertChunks sameNumbers).length = 2 ∧
    ∃ (counts : List Nat) (chunked : LoggedMemory),
      ((Sql.insertChunks sameNumbers).mapM fun chunk => exec (.insert chunk)) {} =
        (.ok (counts.map .count), chunked) ∧
      counts.sum = 1 ∧ chunked.memory = ⟨[{ id := 1, regNum := "A1" }], 1⟩ := by
  have hne : sameNumbers ≠ [] := List.cons_ne_nil _ _
  obtain ⟨counts, count, chunked, whole, hrun, hwhole, hmemory, hsum, _⟩ := insert_in_chunks {} hne
  obtain ⟨_, hexec⟩ := exec_insert {} hne
  rw [insert_sameNumbers, hwhole] at hexec
  cases hexec
  have htwo : (Sql.insertChunks sameNumbers).length = 2 := by
    apply Sql.length_insertChunks_of_one_more
    rw [sameNumbers, List.length_replicate]
  exact ⟨hne, htwo, counts, chunked, hrun, hsum, hmemory⟩

end LoggedMemory

end VehicleRecords.Store
