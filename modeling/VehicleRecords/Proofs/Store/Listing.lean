import VehicleRecords.Proofs.Store.Exec
import VehicleRecords.Proofs.Store.IllTyped
import VehicleRecords.Proofs.Store.Query
import VehicleRecords.Proofs.Text.Written

/-!
Listings of the store in memory. What a condition asks of a record is said here without the store. A
selection by conditions that ask something sensible has the records that pass (`select_of_wellTyped`);
a listing fails when some record makes the store look at another condition (`listing_fails_iff`).
-/
namespace VehicleRecords

open Text (WritesIn)

namespace Predicate

/-- The year is a number: it matches no pattern and is compared with integers only. -/
def WellTyped (p : Predicate) : Prop :=
  p.column = .year → p.operator ≠ .like ∧ ∃ n, WritesIn 8 p.value n

/-- What a well-typed condition says of a record. -/
def HoldsOf (p : Predicate) (car : Car) : Prop :=
  match car.value p.column with
  | .text stored =>
    if p.operator = .like then Store.Matches stored.toList p.value.toList
    else p.operator.relates stored p.value = true
  | .int stored => ∃ n, WritesIn 8 p.value n ∧ p.operator.relates stored.toInt n = true
  | .null => False

end Predicate

namespace Store

/-! ## Conditions -/

theorem illTyped_iff (p : Predicate) : IllTyped p ↔ ¬ p.WellTyped := by
  simp only [IllTyped, Predicate.WellTyped, ← Text.read_int64_trim_iff]
  grind

/-- The store finds a condition true when it is well-typed and holds. -/
theorem holds_eq_true_iff (p : Predicate) (car : Car) :
    holds p car = .ok true ↔ p.WellTyped ∧ p.HoldsOf car := by
  obtain ⟨connective, column, operator, wanted⟩ := p
  by_cases hyear : column = .year
  · subst hyear
    obtain ⟨stored, hstored⟩ := value_year car
    by_cases hlike : operator = .like
    · subst hlike
      simp [holds, Predicate.WellTyped, hstored, Value.text?]
    · rw [holds_of_ne_like hlike]
      simp only [ordering, hstored, Predicate.WellTyped, Predicate.HoldsOf,
        ← Text.read_int64_trim_iff]
      cases hread : Text.IntegerRange.int64.read (Text.trim wanted.toList) with
      | error e => simp [Except.map]
      | ok n =>
        have hcompare : operator.holds (compare stored.toInt n) = operator.relates stored.toInt n :=
          Operator.holds_compareOfLessAndEq operator stored.toInt n
        simp [Except.map, hcompare, hlike]
  · obtain ⟨stored, hstored⟩ := value_of_ne_year hyear car
    have hwell : Predicate.WellTyped ⟨connective, column, operator, wanted⟩ :=
      fun h => absurd h hyear
    rw [and_iff_right hwell]
    by_cases hlike : operator = .like
    · subst hlike
      simp only [holds, Predicate.HoldsOf, hstored, Value.text?, Except.ok.injEq, like_iff, if_true]
    · have hcompare : operator.holds (compare stored wanted) = operator.relates stored wanted :=
        Operator.holds_compareOfLessAndEq operator stored wanted
      rw [holds_of_ne_like hlike]
      simp only [ordering, hstored, Except.map, Predicate.HoldsOf, hcompare, Except.ok.injEq,
        if_neg hlike]

/-! ## Filters of well-typed conditions -/

/-- Well-typed conditions are judged on every record: it passes when some group of them holds. -/
theorem passes_of_wellTyped {filter : Filter} (h : ∀ p ∈ filter, p.WellTyped) (car : Car) :
    ∃ b, passes filter car = .ok b ∧
      (b = true ↔ filter = [] ∨ ∃ group ∈ groupsOf filter, ∀ p ∈ group, p.HoldsOf car) := by
  cases hpasses : passes filter car with
  | error e =>
    obtain ⟨group, hgroup, front, p, back, rfl, -, hill⟩ :=
      (passes_error_iff filter car).1 ⟨e, hpasses⟩
    have hp : p ∈ filter :=
      mem_of_mem_groupsOf hgroup (List.mem_append_right front List.mem_cons_self)
    exact absurd (h p hp) ((illTyped_iff p).1 hill)
  | ok b =>
    refine ⟨b, rfl, ?_⟩
    have hholds (group : List Predicate) (hgroup : group ∈ groupsOf filter) :
        (∀ p ∈ group, holds p car = .ok true) ↔ ∀ p ∈ group, p.HoldsOf car := by
      refine forall₂_congr fun p hp => ?_
      rw [holds_eq_true_iff, and_iff_right (h p (mem_of_mem_groupsOf hgroup hp))]
    rw [passes_iff hpasses]
    exact or_congr_right (exists_congr fun group => and_congr_right (hholds group))

/-- A selection by well-typed conditions has the records that pass, in order. -/
theorem select_of_wellTyped {filter : Filter} (h : ∀ p ∈ filter, p.WellTyped) :
    ∃ keep : Car → Bool, (∀ cars, select filter cars = .ok (cars.filter keep)) ∧
      ∀ car, keep car = true ↔
        filter = [] ∨ ∃ group ∈ groupsOf filter, ∀ p ∈ group, p.HoldsOf car := by
  choose keep hpasses hkeep using passes_of_wellTyped h
  refine ⟨keep, fun cars => ?_, hkeep⟩
  induction cars with
  | nil => rfl
  | cons car cars ih =>
    rw [select, hpasses, ih, List.filter_cons]
    rfl

/-! ## Listings -/

theorem stuck_iff (car : Car) (group : List Predicate) :
    Stuck car group ↔ ∃ front p back, group = front ++ p :: back ∧ ¬ p.WellTyped ∧
      ∀ q ∈ front, q.WellTyped ∧ q.HoldsOf car := by
  simp only [Stuck, holds_eq_true_iff, illTyped_iff, and_comm (b := ¬ Predicate.WellTyped _)]

namespace LoggedMemory

/-- A listing answers what passes the filter, cut to the page, and leaves the records. -/
theorem listCars_eq {b : Backend LoggedMemory} (hb : b.exec = exec) (filter : Filter)
    (page : Pagination) (m : LoggedMemory) :
    (b.listCars filter page m).1 = (select filter m.memory.cars).map page.apply ∧
      (b.listCars filter page m).2.memory = m.memory := by
  obtain ⟨compiled, hrun⟩ := exec_read (.query filter page) rfl Answer.toCars m
  have hlist : b.listCars filter page m =
      (exec (.query filter page) >>= fun answer => liftM answer.toCars) m := by
    rw [Backend.listCars, hb]
  rw [hlist, hrun, Memory.run]
  refine ⟨?_, rfl⟩
  cases select filter m.memory.cars <;> rfl

/-- A listing fails when its filter gets stuck on a stored record. -/
theorem listCars_cases {b : Backend LoggedMemory} (hb : b.exec = exec) (filter : Filter)
    (page : Pagination) (m : LoggedMemory) :
    (∃ cars t, b.listCars filter page m = (.ok cars, t) ∧
      ¬ ∃ car ∈ m.memory.cars, ∃ g ∈ groupsOf filter, Stuck car g) ∨
    ∃ e t, b.listCars filter page m = (.error e, t) ∧ Unjudged e ∧
      ∃ car ∈ m.memory.cars, ∃ g ∈ groupsOf filter, Stuck car g := by
  have hanswer := (listCars_eq hb filter page m).1
  rw [← select_error_iff]
  cases hselect : select filter m.memory.cars with
  | error e =>
    rw [hselect] at hanswer
    exact .inr ⟨e, _, Prod.ext hanswer rfl, raises_select filter m.memory.cars e hselect, e, rfl⟩
  | ok cars =>
    rw [hselect] at hanswer
    refine .inl ⟨page.apply cars, _, Prod.ext hanswer rfl, ?_⟩
    rintro ⟨e, ⟨⟩⟩

/-- A listing fails exactly when, for some stored record, a group of the filter has an ill-typed
condition behind conditions that are all well-typed and hold of the record. Neither the page nor the
other groups count; without records or without conditions no listing fails. -/
theorem listing_fails_iff (m : LoggedMemory) (filter : Filter) (page : Pagination) :
    ((∃ e, (backend.listCars filter page m).1 = .error e) ↔
      ∃ car ∈ m.memory.cars, ∃ group ∈ groupsOf filter, ∃ front p back,
        group = front ++ p :: back ∧ ¬ p.WellTyped ∧
          ∀ q ∈ front, q.WellTyped ∧ q.HoldsOf car) ∧
    (m.memory.cars = [] ∨ filter = [] →
      ∃ cars, (backend.listCars filter page m).1 = .ok cars) := by
  simp only [← stuck_iff]
  rcases listCars_cases (b := backend) rfl filter page m with
    ⟨cars, t, hrun, hfree⟩ | ⟨e, t, hrun, -, hstuck⟩
  · rw [hrun]
    exact ⟨iff_of_false (by rintro ⟨e, ⟨⟩⟩) hfree, fun _ => ⟨cars, rfl⟩⟩
  · rw [hrun]
    refine ⟨iff_of_true ⟨e, rfl⟩ hstuck, fun hempty => ?_⟩
    obtain ⟨car, hcar, group, hgroup, -⟩ := hstuck
    rcases hempty with hnone | rfl
    · rw [hnone] at hcar
      exact absurd hcar List.not_mem_nil
    · exact absurd hgroup List.not_mem_nil

/-- The stored record is of the wanted mark, but the pattern for its year is looked at all the same,
and although the page lies behind the last record. -/
theorem listing_with_true_group_fails :
    (∃ car ∈ [({ id := 1, mark := "Lada", year := 2001 } : Car)],
      ∃ group ∈ groupsOf [⟨.or, .mark, .eq, "Lada"⟩, ⟨.or, .year, .gt, " 1999"⟩,
        ⟨.and, .year, .like, "2%"⟩],
      ∃ front p back, group = front ++ p :: back ∧ ¬ p.WellTyped ∧
        ∀ q ∈ front, q.WellTyped ∧ q.HoldsOf car) ∧
    ∃ e, (backend.listCars [⟨.or, .mark, .eq, "Lada"⟩, ⟨.or, .year, .gt, " 1999"⟩,
        ⟨.and, .year, .like, "2%"⟩] ⟨1, 7⟩
      ⟨⟨[{ id := 1, mark := "Lada", year := 2001 }], 1⟩, []⟩).1 = .error e := by
  have hstuck : Stuck { id := 1, mark := "Lada", year := 2001 }
      [⟨.or, .year, .gt, " 1999"⟩, ⟨.and, .year, .like, "2%"⟩] :=
    ⟨[⟨.or, .year, .gt, " 1999"⟩], _, [], rfl, by decide, rfl, .inl rfl⟩
  have hgroup : [⟨.or, .year, .gt, " 1999"⟩, ⟨.and, .year, .like, "2%"⟩] ∈
      groupsOf [⟨.or, .mark, .eq, "Lada"⟩, ⟨.or, .year, .gt, " 1999"⟩, ⟨.and, .year, .like, "2%"⟩] := by
    decide
  have hlooked := (stuck_iff _ _).1 hstuck
  refine ⟨⟨_, List.mem_singleton_self _, _, hgroup, hlooked⟩, ?_⟩
  exact (listing_fails_iff _ _ _).1.2 ⟨_, List.mem_singleton_self _, _, hgroup, hlooked⟩

end LoggedMemory

end Store

end VehicleRecords
