import Mathlib.Algebra.Order.Floor.Div
import VehicleRecords.Proofs.FirstFailure
import VehicleRecords.Proofs.Service.Run
import VehicleRecords.Proofs.Store.Listing

namespace VehicleRecords

namespace Pagination

variable {α : Type}

/-- The page with a number, counted from zero. -/
def pageOf (limit number : Nat) (xs : List α) : List α := (xs.drop (number * limit)).take limit

theorem apply_eq_pageOf {limit : UInt64} (hlimit : limit ≠ 0) {number : Nat}
    (hnumber : number * limit.toNat < 2 ^ 64) (xs : List α) :
    apply ⟨limit, .ofNat (number * limit.toNat)⟩ xs = pageOf limit.toNat number xs := by
  have henabled : isEnabled ⟨limit, .ofNat (number * limit.toNat)⟩ = true := bne_iff_ne.2 hlimit
  have hoffset : (UInt64.ofNat (number * limit.toNat)).toNat = number * limit.toNat :=
    UInt64.toNat_ofNat_of_lt' hnumber
  rw [apply, if_pos henabled, hoffset, pageOf]

variable {limit : Nat} (hlimit : 0 < limit) (xs : List α)

theorem flatten_pages (limit : Nat) (xs : List α) (count : Nat) :
    ((List.range count).map (pageOf limit · xs)).flatten = xs.take (count * limit) := by
  induction count with
  | zero => rw [List.range_zero, Nat.zero_mul, List.take_zero]; rfl
  | succ count ih =>
    rw [List.range_succ, List.map_append, List.flatten_append, ih, List.map_singleton,
      List.flatten_singleton, Nat.succ_mul, List.take_add, pageOf]

include hlimit

/-- The pages from the number of pages that hold something on are the empty ones. -/
theorem pageOf_eq_nil_iff (number : Nat) :
    pageOf limit number xs = [] ↔ xs.length ⌈/⌉ limit ≤ number := by
  rw [ceilDiv_le_iff_le_mul hlimit, pageOf, List.take_eq_nil_iff, List.drop_eq_nil_iff, Nat.mul_comm]
  constructor
  · rintro (hzero | hlength)
    · omega
    · exact hlength
  · exact .inr

/-- The first empty page begins at a number of 64 bits: either the first page holds everything, or a
page is no longer than what is listed. -/
theorem ceilDiv_mul_lt (hxs : xs.length ≤ 2 ^ 63) (hfits : limit < 2 ^ 64) :
    (xs.length ⌈/⌉ limit) * limit < 2 ^ 64 := by
  have hone : xs.length ≤ limit → xs.length ⌈/⌉ limit ≤ 1 := by
    intro hle
    rw [ceilDiv_le_iff_le_mul hlimit]
    omega
  have hceil := Nat.ceilDiv_eq_add_pred_div xs.length limit
  have hmul := Nat.div_mul_le_self (xs.length + limit - 1) limit
  rw [← hceil] at hmul
  by_cases hle : xs.length ≤ limit
  · calc (xs.length ⌈/⌉ limit) * limit
      _ ≤ 1 * limit := Nat.mul_le_mul_right limit (hone hle)
      _ < 2 ^ 64 := by omega
  · omega

end Pagination

namespace Store

theorem sublist_of_select {filter : Filter} {cars found : List Car}
    (h : select filter cars = .ok found) : found.Sublist cars := by
  induction cars generalizing found with
  | nil =>
    cases h
    exact List.Sublist.slnil
  | cons car rest ih =>
    rw [select] at h
    cases hpasses : passes filter car with
    | error e =>
      rw [hpasses] at h
      cases h
    | ok b =>
      rw [hpasses] at h
      cases hselect : select filter rest with
      | error e =>
        rw [hselect] at h
        cases h
      | ok kept =>
        rw [hselect] at h
        cases h
        cases b with
        | true => exact (ih hselect).cons_cons car
        | false => exact (ih hselect).cons car

/-- An operation enlarges a store by the records that it adds, at most. -/
theorem Memory.length_run_le (m : Memory) (op : Operation) :
    (m.run op).2.cars.length ≤ m.cars.length + m.added op := by
  cases op with
  | insert cars => exact (Memory.length_insert m cars).le
  | getById id => rw [m.run_getById]; exact Nat.le_add_right _ _
  | query filter pagination => exact Nat.le_add_right _ _
  | updateById id patch =>
    have hpatch : (Memory.patchFirst id patch m.cars).length = m.cars.length := by
      simpa only [List.length_map] using congrArg List.length (Memory.ids_patchFirst id patch m.cars)
    rw [Memory.run]
    split
    · exact Nat.le_add_right _ _
    · split
      · exact hpatch.le
      · exact Nat.le_add_right _ _
  | deleteById id =>
    rw [Memory.run]
    split
    · exact List.length_filter_le _ _
    · exact Nat.le_add_right _ _

end Store

namespace Service

open Store LoggedMemory

/-- A store holds no more records than were inserted since the last reset. -/
theorem length_le_of_reached {inserted : Nat} {m : LoggedMemory}
    (h : Reached LoggedMemory.backend {} inserted m) : m.memory.cars.length ≤ inserted := by
  induction h with
  | start => exact Nat.le_refl 0
  | @call before state _ s hs c ih =>
    rcases c.run_cases s hs state before with ⟨hm, hk⟩ | ⟨hm, hk⟩ | ⟨op, hm, hk⟩
    · rw [hm, hk]
      exact Nat.le_refl 0
    · rw [hm, hk]
      exact ih
    · have hrun := state.memory.length_run_le op
      rw [hm, hk]
      omega

/-- Take a store that was reached from the empty one with at most `2 ^ 63` insertions since the last
reset, and a filter for which the listing succeeds. Without a limit the whole listing is answered at
every offset. With one, the pages at the multiples of the limit are answered, in any order and number,
as long as their offsets are numbers of 64 bits. None is larger than the limit; from some page on,
whose offset is such a number, they are empty, and the pages in front of it are the whole listing in
its order. -/
theorem pages_of_listing {inserted : Nat} {m : LoggedMemory}
    (h : Reached LoggedMemory.backend {} inserted m) (hinserted : inserted ≤ 2 ^ 63)
    {filter : Filter} {whole : List Car}
    (hwhole : (LoggedMemory.backend.listCars filter {} m).1 = .ok whole) :
    (∀ offset, (LoggedMemory.backend.listCars filter ⟨0, offset⟩ m).1 = .ok whole) ∧
    ∀ limit : UInt64, limit ≠ 0 → ∃ (page : Nat → List Car) (first : Nat),
      (∀ k, k * limit.toNat < 2 ^ 64 → ∀ m' : LoggedMemory, m'.memory = m.memory →
        ∃ after, LoggedMemory.backend.listCars filter ⟨limit, .ofNat (k * limit.toNat)⟩ m' =
          (.ok (page k), after) ∧ after.memory = m.memory) ∧
      (∀ k, (page k).length ≤ limit.toNat) ∧
      first * limit.toNat < 2 ^ 64 ∧ (∀ k, page k = [] ↔ first ≤ k) ∧
      ((List.range first).map page).flatten = whole := by
  have hselect : select filter m.memory.cars = .ok whole := by
    rw [(listCars_eq rfl filter {} m).1] at hwhole
    obtain ⟨found, hfound, rfl⟩ := map_eq_ok_iff.1 hwhole
    exact hfound
  have hlength : whole.length ≤ 2 ^ 63 := by
    have hfound := (sublist_of_select hselect).length_le
    have hstored := length_le_of_reached h
    omega
  refine ⟨fun offset => ?_, fun limit hlimit => ?_⟩
  · rw [(listCars_eq rfl filter ⟨0, offset⟩ m).1, hselect]
    rfl
  · have hpos : 0 < limit.toNat := by
      rw [Nat.pos_iff_ne_zero]
      intro hzero
      exact hlimit (UInt64.toNat_inj.1 hzero)
    refine ⟨(Pagination.pageOf limit.toNat · whole), whole.length ⌈/⌉ limit.toNat, ?_,
      fun k => List.length_take_le _ _, Pagination.ceilDiv_mul_lt hpos whole hlength limit.toNat_lt,
      fun k => Pagination.pageOf_eq_nil_iff hpos whole k, ?_⟩
    · intro k hk m' hm'
      obtain ⟨hpage, hafter⟩ :=
        listCars_eq (b := LoggedMemory.backend) rfl filter ⟨limit, .ofNat (k * limit.toNat)⟩ m'
      rw [hm', hselect] at hpage
      refine ⟨_, Prod.ext ?_ rfl, hafter.trans hm'⟩
      rw [hpage]
      exact congrArg Except.ok (Pagination.apply_eq_pageOf hlimit hk whole)
    · rw [Pagination.flatten_pages, List.take_of_length_le]
      have hall := (ceilDiv_le_iff_le_mul hpos).1 (Nat.le_refl (whole.length ⌈/⌉ limit.toNat))
      rw [Nat.mul_comm]
      exact hall

/-- Three of four records pass the filter; the second page of two has the last one of them. -/
theorem pages_of_three_records :
    ∃ m : LoggedMemory, Reached LoggedMemory.backend {} 4 m ∧ 4 ≤ 2 ^ 63 ∧
      (LoggedMemory.backend.listCars [⟨.and, .regNum, .ne, "B1"⟩] {} m).1 =
        .ok [{ id := 1, regNum := "A1" }, { id := 3, regNum := "A2" }, { id := 4, regNum := "A3" }] ∧
      (2 : UInt64) ≠ 0 ∧
      ∃ (page : Nat → List Car) (first : Nat),
        page 1 = [{ id := 4, regNum := "A3" }] ∧ (∀ k, page k = [] ↔ first ≤ k) ∧
        ((List.range first).map page).flatten =
          [{ id := 1, regNum := "A1" }, { id := 3, regNum := "A2" }, { id := 4, regNum := "A3" }] := by
  have hadd : Reached LoggedMemory.backend {} 4 _ :=
    Reached.start.call (permissive LoggedMemory.backend) rfl (.addCars ["A1", "B1", "A2", "A3"])
  have hwhole : (LoggedMemory.backend.listCars [⟨.and, .regNum, .ne, "B1"⟩] {}
      ((Call.addCars ["A1", "B1", "A2", "A3"]).run (permissive LoggedMemory.backend) {}).2).1 =
      .ok [{ id := 1, regNum := "A1" }, { id := 3, regNum := "A2" }, { id := 4, regNum := "A3" }] := by
    rfl
  obtain ⟨page, first, hpages, -, -, hempty, hall⟩ :=
    (pages_of_listing hadd (by decide) hwhole).2 2 (by decide)
  obtain ⟨after, hpage, -⟩ := hpages 1 (by decide) _ rfl
  have hsecond : page 1 = [{ id := 4, regNum := "A3" }] :=
    Except.ok.inj (congrArg Prod.fst hpage).symm
  exact ⟨_, hadd, by decide, hwhole, by decide, page, first, hsecond, hempty, hall⟩

end Service

end VehicleRecords
