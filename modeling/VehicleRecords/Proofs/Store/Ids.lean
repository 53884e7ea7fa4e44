import Mathlib.Data.List.Range
import VehicleRecords.Proofs.Store.Batch

namespace VehicleRecords.Store.Memory

def newIds (m m' : Memory) : List Int32 := m'.ids.diff m.ids

theorem newIds_of_append {m m' : Memory} {ids : List Int32} (h : m'.ids = m.ids ++ ids) :
    m.newIds m' = ids := by
  rw [newIds, h]
  induction m.ids with
  | nil => rfl
  | cons id front ih => rw [List.cons_append, List.diff_cons, List.erase_cons_head, ih]

theorem newIds_of_sublist {m m' : Memory} (h : m'.ids.Sublist m.ids) : m.newIds m' = [] := by
  have hdiff {front back : List Int32} (hfront : front.Sublist back) : front.diff back = [] := by
    induction hfront with
    | slnil => rfl
    | cons id _ ih => rw [List.diff_cons_right, ih, List.erase_nil]
    | cons_cons id _ ih => rw [List.diff_cons, List.erase_cons_head, ih]
  exact hdiff h

/-- An operation puts records behind the others, or it has no id stored that was not stored before. -/
theorem ids_run (m : Memory) (op : Operation) :
    (∃ ids, (m.run op).2.ids = m.ids ++ ids ∧ ids.length = m.added op) ∨
    ((m.run op).2.ids.Sublist m.ids ∧ m.added op = 0) := by
  cases op with
  | insert cars =>
    obtain ⟨new, hnew, hcount⟩ := m.exists_brings cars
    refine .inl ⟨new.map (·.id), ?_, ?_⟩
    · have hids : (m.run (.insert cars)).2.ids = (m.insert cars).1.ids := rfl
      rw [hids, ids, hnew.behind, List.map_append, ids]
    · rw [List.length_map]
      exact hcount.symm
  | getById id =>
    refine .inr ⟨?_, rfl⟩
    rw [run]
    split <;> exact List.Sublist.refl _
  | query filter pagination => exact .inr ⟨List.Sublist.refl _, rfl⟩
  | updateById id patch =>
    refine .inr ⟨?_, rfl⟩
    rw [run]
    split
    · exact List.Sublist.refl _
    · split
      · have hids : ids { m with cars := patchFirst id patch m.cars } = m.ids :=
          ids_patchFirst id patch m.cars
        exact hids ▸ List.Sublist.refl _
      · exact List.Sublist.refl _
  | deleteById id =>
    refine .inr ⟨?_, rfl⟩
    rw [run]
    split
    · exact List.filter_sublist.map _
    · exact List.Sublist.refl _

theorem length_newIds_run (m : Memory) (op : Operation) :
    (m.newIds (m.run op).2).length = m.added op := by
  rcases m.ids_run op with ⟨ids, happend, hlength⟩ | ⟨hsublist, hadded⟩
  · rw [newIds_of_append happend, hlength]
  · rw [newIds_of_sublist hsublist, hadded, List.length_nil]

theorem mem_ids_run {m : Memory} {op : Operation} {id : Int32} (h : id ∈ (m.run op).2.ids) :
    id ∈ m.ids ∨ id ∈ m.newIds (m.run op).2 := by
  rcases m.ids_run op with ⟨ids, happend, _⟩ | ⟨hsublist, _⟩
  · rw [newIds_of_append happend]
    rwa [happend, List.mem_append] at h
  · exact .inl (hsublist.subset h)

/-- The ids are the numbers that follow on `handedOut`, in order. -/
def FollowOn (handedOut : Nat) (ids : List Int32) : Prop :=
  ids.map (·.toInt) = (List.range' (handedOut + 1) ids.length).map fun k : Nat => (k : Int)

namespace FollowOn

variable {handedOut : Nat} {ids later : List Int32}

theorem nil (handedOut : Nat) : FollowOn handedOut [] := rfl

theorem append (h : FollowOn handedOut ids) (hlater : FollowOn (handedOut + ids.length) later) :
    FollowOn handedOut (ids ++ later) := by
  have hstart : handedOut + ids.length + 1 = handedOut + 1 + ids.length := by omega
  rw [FollowOn, List.map_append, h, hlater, hstart, ← List.map_append, List.range'_append_1,
    List.length_append]

theorem lt_of_mem (h : FollowOn handedOut ids) {id : Int32} (hid : id ∈ ids) :
    (handedOut : Int) < id.toInt := by
  have hmem : id.toInt ∈ ids.map (·.toInt) := List.mem_map_of_mem hid
  rw [h, List.mem_map] at hmem
  obtain ⟨k, hk, heq⟩ := hmem
  rw [List.mem_range'_1] at hk
  omega

theorem increasing (h : FollowOn handedOut ids) : ids.Pairwise (· < ·) := by
  have hnumbers : (ids.map (·.toInt)).Pairwise (· < ·) := by
    rw [h, List.pairwise_map]
    apply List.Pairwise.imp _ List.pairwise_lt_range'
    intro a b hab
    exact Int.ofNat_lt.2 hab
  apply (List.pairwise_map.1 hnumbers).imp
  intro a b hab
  exact Int32.lt_iff_toInt_lt.2 hab

end FollowOn

/-- By induction on the batch: a record that is stored takes the next number. -/
theorem followOn_insert {n : Nat} {m : Memory} (h : m.Consistent n) (cars : List Car)
    (hn : n + (m.insert cars).2 < 2147483648) :
    ∃ ids, (m.insert cars).1.ids = m.ids ++ ids ∧ FollowOn n ids := by
  -- The last record of the batch meets the store that the others have left, and its last id.
  induction cars using List.reverseRecOn with
  | nil => exact ⟨[], (List.append_nil _).symm, FollowOn.nil n⟩
  | append_singleton cars car ih =>
    rw [insert_append_one] at hn ⊢
    rcases insertOne_cases (m.insert cars).1 (m.insert cars).2 car with
      ⟨_, heq⟩ | ⟨_, heq⟩
    · rw [heq] at hn ⊢
      exact ih hn
    · rw [heq] at hn ⊢
      have hfront : n + (m.insert cars).2 < 2147483648 := Nat.lt_of_succ_lt hn
      obtain ⟨ids, hids, hfollow⟩ := ih hfront
      have hlast : (m.insert cars).1.lastId.toInt = (n + (m.insert cars).2 : Nat) :=
        (consistent_foldl_insertOne cars m 0 h hfront).counted
      have hcount : ids.length = (m.insert cars).2 := by
        have hlength := congrArg List.length hids
        have hgrows := m.length_insert cars
        rw [List.length_append, Memory.ids, Memory.ids, List.length_map, List.length_map] at hlength
        omega
      refine ⟨ids ++ [(m.insert cars).1.lastId + 1], ?_, hfollow.append ?_⟩
      · rw [ids_push, hids, List.append_assoc]
      · have hnext := toInt_nextId hlast hn
        rw [FollowOn, List.map_singleton, hnext, hcount, List.length_singleton, List.range'_one,
          List.map_singleton]

/-- The ids that an operation hands out follow on those handed out before. -/
theorem newIds_run {n : Nat} {m : Memory} (h : m.Consistent n) (op : Operation)
    (hn : n + m.added op < 2147483648) : FollowOn n (m.newIds (m.run op).2) := by
  have hnone (op : Operation) (hadded : m.added op = 0) : FollowOn n (m.newIds (m.run op).2) := by
    have hlength := m.length_newIds_run op
    rw [hadded, List.length_eq_zero_iff] at hlength
    rw [hlength]
    exact FollowOn.nil n
  cases op with
  | insert cars =>
    obtain ⟨ids, hids, hfollow⟩ := followOn_insert h cars hn
    exact newIds_of_append hids ▸ hfollow
  | getById id => exact hnone _ rfl
  | query filter pagination => exact hnone _ rfl
  | updateById id patch => exact hnone _ rfl
  | deleteById id => exact hnone _ rfl

end VehicleRecords.Store.Memory
