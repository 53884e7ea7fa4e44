import VehicleRecords.Proofs.Service.Edit
import VehicleRecords.Proofs.Store.Ids

namespace VehicleRecords.Service

open Store LoggedMemory

/-- The store comes from `start` to `state` by calls, none of which resets it. The ids that were newly
stored on the way are `issued`, the earliest first. -/
inductive History (start : LoggedMemory) : (issued : List Int32) → (state : LoggedMemory) → Prop
  | start : History start [] start
  | call {issued : List Int32} {state : LoggedMemory} (h : History start issued state)
      (s : Service LoggedMemory) (hs : s.backend = LoggedMemory.backend) (c : Call)
      (hc : c ≠ .reset) :
      History start (issued ++ state.memory.newIds (c.run s state).2.memory) (c.run s state).2

/-- What is known of a store after `issued` ids were handed out behind the first `inserted`. -/
structure Issued (inserted : Nat) (start : LoggedMemory) (issued : List Int32)
    (state : LoggedMemory) : Prop where
  consistent : state.memory.Consistent (inserted + issued.length)
  numbered : Memory.FollowOn inserted issued
  known : ∀ id ∈ state.memory.ids, id ∈ start.memory.ids ∨ id ∈ issued

namespace Issued

variable {inserted : Nat} {start state : LoggedMemory} {issued : List Int32}

theorem none (h : start.memory.Consistent inserted) : Issued inserted start [] start where
  consistent := h
  numbered := Memory.FollowOn.nil inserted
  known := fun _ hid => .inl hid

/-- An operation of the store hands out the next ids, if any. -/
theorem run (h : Issued inserted start issued state) (op : Operation) {next : LoggedMemory}
    (hnext : next.memory = (state.memory.run op).2)
    (hn : inserted + (issued ++ state.memory.newIds next.memory).length < 2147483648) :
    Issued inserted start (issued ++ state.memory.newIds next.memory) next := by
  have hlength := state.memory.length_newIds_run op
  rw [List.length_append, hnext, hlength] at hn
  have hfree : inserted + issued.length + state.memory.added op < 2147483648 := by omega
  refine ⟨?_, ?_, ?_⟩
  · rw [hnext, List.length_append, hlength, ← Nat.add_assoc]
    exact Memory.consistent_run h.consistent op hfree
  · rw [hnext]
    exact h.numbered.append (Memory.newIds_run h.consistent op hfree)
  · intro id hid
    rw [hnext] at hid ⊢
    rw [List.mem_append]
    rcases Memory.mem_ids_run hid with hold | hnew
    · rcases h.known id hold with hstart | hissued
      · exact .inl hstart
      · exact .inr (.inl hissued)
    · exact .inr (.inr hnew)

end Issued

/-- What a history hands out, as long as there are ids for it. -/
theorem issued_of_history {inserted : Nat} {start state : LoggedMemory} {issued : List Int32}
    (hstart : start.memory.Consistent inserted) (h : History start issued state)
    (hn : inserted + issued.length < 2147483648) : Issued inserted start issued state := by
  induction h with
  | start => exact Issued.none hstart
  | @call issued state _ s hs c hc ih =>
    have hearlier : inserted + issued.length < 2147483648 := by
      rw [List.length_append] at hn
      omega
    rcases c.run_cases_of_ne_reset s hs hc state 0 with ⟨hmemory, _⟩ | ⟨op, hmemory, _⟩
    · -- The call concerns no record, so the ids are those of before.
      have hnone : state.memory.newIds (c.run s state).2.memory = [] := by
        rw [hmemory]
        exact Memory.newIds_of_sublist (List.Sublist.refl _)
      obtain ⟨hconsistent, hnumbered, hknown⟩ := ih hearlier
      rw [hnone, List.append_nil]
      exact ⟨hmemory ▸ hconsistent, hnumbered, hmemory ▸ hknown⟩
    · exact (ih hearlier).run op hmemory hn

/-- A record that is taken out is not stored any more, and its id is not behind the last one handed
out. -/
theorem id_of_deleteCar {n : Nat} {s : Service LoggedMemory} (hs : s.backend.exec = exec)
    {id : Int64} {m m' : LoggedMemory} (hm : m.memory.Consistent n)
    (h : s.deleteCar id m = (.ok (), m')) :
    m'.memory.Consistent n ∧ (∀ small ∈ m'.memory.ids, small.toInt64 ≠ id) ∧
      ∀ small : Int32, small.toInt64 = id → small ≤ m.memory.lastId := by
  have hcases := deleteCar_cases hs id hm
  rw [h] at hcases
  rcases hcases with ⟨_, herror⟩ | ⟨_, _, before, car, after, hat, hremoved⟩
  · cases herror
  · dsimp only at hremoved
    rw [hremoved]
    refine ⟨?_, ?_, ?_⟩
    · rw [← hat.filter_eq]
      exact Memory.consistent_filter hm _
    · intro small hsmall
      obtain ⟨other, hother, rfl⟩ := List.mem_map.1 hsmall
      exact hat.others other hother
    · intro small hsmall
      have hsame : small = car.id := by
        rw [← Int32.toInt_inj, ← Int32.toInt_toInt64, ← Int32.toInt_toInt64, hsmall, hat.id_eq]
      rw [hsame]
      apply hm.issued
      rw [Memory.ids, hat.cars_eq]
      exact List.mem_map_of_mem (List.mem_append_right before List.mem_cons_self)

/-- Once a record is taken out, nothing that is added later is stored under its id. -/
theorem not_stored_after_deleteCar {n : Nat} {s : Service LoggedMemory} (hs : s.backend.exec = exec)
    {id : Int64} {m deleted finish : LoggedMemory} {after : List Int32}
    (hm : m.memory.Consistent n) (hdelete : s.deleteCar id m = (.ok (), deleted))
    (hafter : History deleted after finish) (hn : n + after.length < 2147483648) :
    ¬ Stored finish id := by
  obtain ⟨hdeleted, hgone, hlast⟩ := id_of_deleteCar hs hm hdelete
  have hissued := issued_of_history hdeleted hafter hn
  rintro ⟨car, hcar, hid⟩
  have hmem : car.id ∈ finish.memory.ids := List.mem_map_of_mem hcar
  rcases hissued.known car.id hmem with hold | hnew
  · exact hgone car.id hold hid
  · -- A new id is behind the last one of before, and the id of the record was not.
    have hgreater := hissued.numbered.lt_of_mem hnew
    have hle := Int32.le_iff_toInt_le.1 (hlast car.id hid)
    rw [hm.counted] at hle
    omega

/-- In a run without a reset every record gets a greater id than the records before it, and after the
record `id` was deleted no look-up, edit or deletion of `id` succeeds any more. -/
theorem ids_never_reused {inserted : Nat} {start : LoggedMemory}
    (hstart : Reached LoggedMemory.backend {} inserted start) :
    (∀ issued state, History start issued state → inserted + issued.length < 2147483648 →
      issued.Pairwise (· < ·) ∧ ∀ old ∈ start.memory.ids, ∀ new ∈ issued, old < new) ∧
    ∀ before middle, History start before middle →
      ∀ s : Service LoggedMemory, s.backend = LoggedMemory.backend →
      ∀ id deleted, s.deleteCar id middle = (.ok (), deleted) →
      ∀ after finish, History deleted after finish →
        inserted + before.length + after.length < 2147483648 →
      ∀ later : Service LoggedMemory, later.backend = LoggedMemory.backend →
        (later.getCar id finish).1 = .error (.noSuchCar id) ∧
        (later.deleteCar id finish).1 = .error (.noSuchCar id) ∧
        ∀ patch m', later.editCar id patch finish ≠ (.ok (), m') := by
  constructor
  · intro issued state hrun hn
    have hconsistent := consistent_of_reached hstart (by omega)
    have hissued := issued_of_history hconsistent hrun hn
    refine ⟨hissued.numbered.increasing, ?_⟩
    intro old hold new hnew
    have hle := Int32.le_iff_toInt_le.1 (hconsistent.issued old hold)
    have hgreater := hissued.numbered.lt_of_mem hnew
    rw [hconsistent.counted] at hle
    exact Int32.lt_iff_toInt_lt.2 (Int.lt_of_le_of_lt hle hgreater)
  · intro before middle hbefore s hs id deleted hdelete after finish hafter hn later hlater
    have hexec := exec_of_backend hs
    have hlaterExec := exec_of_backend hlater
    have hconsistent := consistent_of_reached hstart (by omega)
    have hmiddle := (issued_of_history hconsistent hbefore (by omega)).consistent
    have hgone := not_stored_after_deleteCar hexec hmiddle hdelete hafter hn
    have hdeleted := (id_of_deleteCar hexec hmiddle hdelete).1
    have hfinish := (issued_of_history hdeleted hafter hn).consistent
    refine ⟨?_, ?_, ?_⟩
    · rw [(getCar_outcome later hlaterExec id finish).2, (not_stored_iff finish id).1 hgone]
    · rcases deleteCar_cases hlaterExec id hfinish with ⟨_, herror⟩ | ⟨hstored, _⟩
      · exact herror
      · exact absurd hstored hgone
    · intro patch m' hedit
      obtain ⟨_, _, hstored, _⟩ := (editCar_succeeds_iff hlaterExec id patch hfinish).1 ⟨m', hedit⟩
      exact hgone hstored

/-- The id of the newest record is not given out again when the record is deleted. -/
theorem newest_id_not_reused :
    ∃ middle deleted finish : LoggedMemory,
      Reached LoggedMemory.backend {} 0 {} ∧ History {} [1, 2] middle ∧
      (permissive LoggedMemory.backend).deleteCar 2 middle = (.ok (), deleted) ∧
      History deleted [3, 4] finish ∧ 0 + [1, 2].length + [3, 4].length < 2147483648 ∧
      finish.memory.cars.map (fun car => (car.id, car.regNum)) = [(1, "A1"), (3, "B2"), (4, "C3")] ∧
      ((permissive LoggedMemory.backend).getCar 2 finish).1 = .error (.noSuchCar 2) ∧
      ((permissive LoggedMemory.backend).deleteCar 2 finish).1 = .error (.noSuchCar 2) ∧
      ∀ patch m', (permissive LoggedMemory.backend).editCar 2 patch finish ≠ (.ok (), m') := by
  have hbefore : History {} [1, 2] _ :=
    History.start.call (permissive LoggedMemory.backend) rfl (.addCars ["A1", "B2"]) nofun
  have hafter : History ((permissive LoggedMemory.backend).deleteCar 2
      ((permissive LoggedMemory.backend).addCars ["A1", "B2"] {}).2).2 [3, 4] _ :=
    History.start.call (permissive LoggedMemory.backend) rfl (.addCars ["B2", "A1", "C3"]) nofun
  have hnever := (ids_never_reused Reached.start).2 [1, 2] _ hbefore
    (permissive LoggedMemory.backend) rfl 2 _ rfl [3, 4] _ hafter (by decide)
    (permissive LoggedMemory.backend) rfl
  exact ⟨_, _, _, Reached.start, hbefore, rfl, hafter, by decide, by decide, hnever⟩

end VehicleRecords.Service
