import Mathlib.Algebra.Order.Floor.Div
import VehicleRecords.Proofs.Sql.Insertion

namespace VehicleRecords.Sql

theorem maxInsertRows_pos : 0 < maxInsertRows := by decide

/-! ## Chunks -/

theorem flatten_insertChunks (cars : List Car) : (insertChunks cars).flatten = cars := by
  induction cars using insertChunks.induct with
  | case1 cars hfits => rw [insertChunks, if_pos hfits, List.flatten_singleton]
  | case2 cars hfits ih =>
    rw [insertChunks, if_neg hfits, List.flatten_cons, ih, List.take_append_drop]

theorem ne_nil_of_mem_insertChunks {cars : List Car} (hcars : cars ≠ []) :
    ∀ chunk ∈ insertChunks cars, chunk ≠ [] := by
  have hrows := maxInsertRows_pos
  induction cars using insertChunks.induct with
  | case1 cars hfits =>
    rw [insertChunks, if_pos hfits, List.forall_mem_singleton]
    exact hcars
  | case2 cars hfits ih =>
    rw [insertChunks, if_neg hfits, List.forall_mem_cons]
    refine ⟨?_, ih ?_⟩
    · rw [← List.length_pos_iff, List.length_take]
      omega
    · rw [← List.length_pos_iff, List.length_drop]
      omega

/-- All chunks but the last one are full, so there are as many as a rounded-up quotient says. -/
theorem length_insertChunks {cars : List Car} (hcars : cars ≠ []) :
    (insertChunks cars).length = cars.length ⌈/⌉ maxInsertRows := by
  have hrows := maxInsertRows_pos
  rw [Nat.ceilDiv_eq_add_pred_div]
  induction cars using insertChunks.induct with
  | case1 cars hfits =>
    have hpos := List.length_pos_iff.2 hcars
    -- Between one row and a full statement the quotient is one.
    rw [insertChunks, if_pos hfits, List.length_singleton, eq_comm, Nat.div_eq_iff hrows]
    omega
  | case2 cars hfits ih =>
    have hrest : cars.drop maxInsertRows ≠ [] := by
      rw [← List.length_pos_iff, List.length_drop]
      omega
    have hlonger : cars.length + maxInsertRows - 1 =
        (cars.length - maxInsertRows + maxInsertRows - 1) + maxInsertRows := by omega
    rw [insertChunks, if_neg hfits, List.length_cons, ih hrest, List.length_drop, hlonger,
      Nat.add_div_right _ hrows]

/-- One record more than fits into a statement takes a statement of its own. -/
theorem length_insertChunks_of_one_more {cars : List Car} (h : cars.length = maxInsertRows + 1) :
    (insertChunks cars).length = 2 := by
  have hrows := maxInsertRows_pos
  rw [length_insertChunks (List.ne_nil_of_length_eq_add_one h), h, Nat.ceilDiv_eq_add_pred_div,
    Nat.div_eq_iff hrows]
  have hone : 1 < maxInsertRows := by decide
  omega

theorem length_le_of_mem_insertChunks (cars : List Car) :
    ∀ chunk ∈ insertChunks cars, chunk.length ≤ maxInsertRows := by
  induction cars using insertChunks.induct with
  | case1 cars hfits =>
    rw [insertChunks, if_pos hfits, List.forall_mem_singleton]
    exact hfits
  | case2 cars hfits ih =>
    rw [insertChunks, if_neg hfits, List.forall_mem_cons]
    exact ⟨List.length_take_le _ _, ih⟩

/-! ## Statements -/

def rowsValues (cars : List Car) : List Value := cars.flatMap fun car => Column.all.map car.value

theorem length_rowsValues (cars : List Car) : (rowsValues cars).length = 7 * cars.length := by
  induction cars with
  | nil => rfl
  | cons car cars ih =>
    have hrow : (Column.all.map car.value).length = 7 := rfl
    rw [rowsValues] at ih ⊢
    rw [List.flatMap_cons, List.length_append, ih, hrow, List.length_cons]
    omega

theorem length_rowsValues_le {cars : List Car} (h : cars.length ≤ maxInsertRows) :
    (rowsValues cars).length ≤ maxParams := by
  have hrows : 7 * maxInsertRows ≤ maxParams := by decide
  rw [length_rowsValues]
  omega

/-- The compiled statement inserts the rows of a chunk and nothing else. -/
structure Inserts (table : String) (chunk : List Car) (c : Compiled) : Prop where
  compiled : compile table [] (.run (.insert chunk)) = .ok c
  values : c.params = rowsValues chunk

theorem exists_inserts (table : String) (chunks : List (List Car))
    (h : ∀ chunk ∈ chunks, chunk ≠ []) :
    ∃ statements, List.Forall₂ (Inserts table) chunks statements := by
  induction chunks with
  | nil => exact ⟨[], .nil⟩
  | cons chunk rest ih =>
    rw [List.forall_mem_cons] at h
    obtain ⟨c, hc, hparams⟩ := compile_insert table [] h.1
    obtain ⟨statements, hrest⟩ := ih h.2
    exact ⟨c :: statements, .cons ⟨hc, hparams⟩ hrest⟩

theorem params_of_inserts {table : String} {chunks : List (List Car)} {statements : List Compiled}
    (h : List.Forall₂ (Inserts table) chunks statements) :
    statements.flatMap (·.params) = rowsValues chunks.flatten := by
  induction h with
  | nil => rfl
  | cons hc _ ih =>
    rw [List.flatMap_cons, ih, hc.values, List.flatten_cons, rowsValues, rowsValues, rowsValues,
      List.flatMap_append]

/-- The chunks of a batch are the batch in order. For a batch with a record there are as many as its
rows need, each has a row and no more rows than a statement may have, and each compiles to a statement
that binds seven values a row, so no more than the protocol counts. Together the statements bind the
values of the batch in order. -/
theorem chunks_of_batch (table : String) (cars : List Car) :
    (insertChunks cars).flatten = cars ∧
    (cars ≠ [] →
      (insertChunks cars).length = cars.length ⌈/⌉ maxInsertRows ∧
      (∀ chunk ∈ insertChunks cars, 1 ≤ chunk.length ∧ chunk.length ≤ maxInsertRows) ∧
      ∃ statements,
        List.Forall₂ (fun chunk c => compile table [] (.run (.insert chunk)) = .ok c ∧
          c.params.length = 7 * chunk.length ∧ c.params.length ≤ maxParams)
          (insertChunks cars) statements ∧
        statements.flatMap (·.params) = cars.flatMap fun car => Column.all.map car.value) := by
  refine ⟨flatten_insertChunks cars, fun hcars => ⟨length_insertChunks hcars, ?_, ?_⟩⟩
  · intro chunk hchunk
    exact ⟨List.length_pos_iff.2 (ne_nil_of_mem_insertChunks hcars chunk hchunk),
      length_le_of_mem_insertChunks cars chunk hchunk⟩
  · obtain ⟨statements, hstatements⟩ :=
      exists_inserts table _ (ne_nil_of_mem_insertChunks hcars)
    have hparams := params_of_inserts hstatements
    rw [flatten_insertChunks] at hparams
    refine ⟨statements, ?_, hparams⟩
    -- The bound on the parameters is the bound on the rows of a chunk.
    refine ((List.forall₂_and_left _ _).2 ⟨length_le_of_mem_insertChunks cars, hstatements⟩).imp ?_
    rintro chunk c ⟨hrows, hc⟩
    rw [hc.values]
    exact ⟨hc.compiled, length_rowsValues chunk, length_rowsValues_le hrows⟩

/-- A batch of twice as many rows as fit into a statement takes two statements and no third one. -/
theorem chunks_of_two_full_statements :
    let cars : List Car := List.replicate (2 * maxInsertRows) { regNum := "A1" }
    cars ≠ [] ∧ (insertChunks cars).length = 2 ∧
    ∃ statements,
      List.Forall₂ (fun chunk c => compile "cars" [] (.run (.insert chunk)) = .ok c ∧
        c.params.length = 7 * chunk.length ∧ c.params.length ≤ maxParams)
        (insertChunks cars) statements ∧
      statements.flatMap (·.params) = cars.flatMap fun car => Column.all.map car.value := by
  intro cars
  have hne : cars ≠ [] := List.cons_ne_nil _ _
  obtain ⟨_, hcars⟩ := chunks_of_batch "cars" cars
  obtain ⟨hlength, _, hstatements⟩ := hcars hne
  have htwo : 2 * maxInsertRows ⌈/⌉ maxInsertRows = 2 := by
    rw [Nat.ceilDiv_eq_add_pred_div]
    decide
  rw [List.length_replicate, htwo] at hlength
  exact ⟨hne, hlength, hstatements⟩

end VehicleRecords.Sql
