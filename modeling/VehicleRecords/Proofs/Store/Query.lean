import VehicleRecords.Proofs.Sql.Listing
import VehicleRecords.Proofs.Store.Like
import VehicleRecords.Proofs.Text.Written
import VehicleRecords.Store.Memory

/-!
The rows of a listing, and the answers of the store in memory. A comparison that is ill-typed for its
column may be true or false; whichever it is, an answer of the store is the rows of the listing that
a database reads in the compiled query (`run_query_eq_rows`).
-/
namespace VehicleRecords

namespace Operator

variable {α : Type} [DecidableEq α] [LT α] [DecidableLT α] [LE α] [DecidableLE α]

/-- The relation of an operator other than `LIKE`. Texts are ordered by their code points. -/
def relates (o : Operator) (stored wanted : α) : Bool :=
  match o with
  | eq => stored = wanted
  | ne => stored ≠ wanted
  | gt => wanted < stored
  | ge => wanted ≤ stored
  | lt => stored < wanted
  | le => stored ≤ wanted
  | like => false

/-- Comparing and then asking for the result is asking for the relation. -/
theorem holds_compareOfLessAndEq [Std.IsLinearOrder α] [Std.LawfulOrderLT α] (o : Operator)
    (a b : α) : o.holds (compareOfLessAndEq a b) = o.relates a b := by
  have hle : a ≤ b ↔ ¬ b < a := Std.not_lt.symm
  have hge : b ≤ a ↔ ¬ a < b := Std.not_lt.symm
  unfold compareOfLessAndEq
  split
  · next h =>
    have hnot : ¬ b < a := hle.mp (Std.le_of_lt h)
    have hne : a ≠ b := Std.ne_of_lt h
    cases o <;> simp [holds, relates, hle, hge, h, hnot, hne]
  · next h =>
    split
    · next heq =>
      subst heq
      cases o <;> simp [holds, relates, h]
    · next hne =>
      have hgt : b < a := Std.lt_of_le_of_ne (hge.mpr h) (Ne.symm hne)
      cases o <;> simp [holds, relates, hle, hge, h, hgt, hne]

end Operator

namespace Sql

/-- Whether a comparison holds of a record. A number matches no pattern and compares with 64-bit
integers only; `guess` is the truth of the comparisons that are ill-typed. -/
def Comparison.holds (guess : Comparison → Car → Bool) (c : Comparison) (car : Car) : Bool :=
  match c.operator, car.value c.column with
  | .like, .text stored => decide (Store.Matches stored.toList c.wanted.toList)
  | o, .text stored => o.relates stored c.wanted
  | .like, .int _ => guess c car
  | o, .int stored =>
    match Text.integerIn? 8 c.wanted with
    | some wanted => o.relates stored.toInt wanted
    | none => guess c car
  | _, .null => guess c car

namespace Listing

/-- Whether a record is kept: by a listing with a condition when some group of it holds. -/
def keeps (guess : Comparison → Car → Bool) (l : Listing) (car : Car) : Bool :=
  match l.condition with
  | none => true
  | some groups => groups.any (·.all (·.holds guess car))

def rows (guess : Comparison → Car → Bool) (l : Listing) (cars : List Car) : List Car :=
  let kept := cars.filter (l.keeps guess)
  match l.window with
  | none => kept
  | some (limit, offset) => (kept.drop offset.toInt.toNat).take limit.toInt.toNat

end Listing

/-- A condition of a filter that a comparison with its connective stands for. -/
def predicateOf (x : Connective × Comparison) : Predicate :=
  ⟨x.1, x.2.column, x.2.operator, x.2.wanted⟩

theorem comparisons_predicateOf (bound : Nat) (filter : Filter) :
    (comparisons bound filter).map predicateOf = filter := by
  induction filter generalizing bound with
  | nil => rfl
  | cons p rest ih =>
    rw [comparisons, List.map_cons, ih]
    rfl

end Sql

namespace Store

theorem value_ne_null (car : Car) (c : Column) : car.value c ≠ .null := by
  cases c <;> exact Value.noConfusion

/-- A condition that the store can judge is a comparison that is well-typed, and the two agree. -/
theorem holds_eq_holds (guess : Sql.Comparison → Car → Bool) (x : Connective × Sql.Comparison)
    (car : Car) (t : Bool) (h : holds (Sql.predicateOf x) car = .ok t) :
    x.2.holds guess car = t := by
  obtain ⟨connective, column, operator, number, wanted⟩ := x
  cases hv : car.value column with
  | null => exact absurd hv (value_ne_null car column)
  | text stored =>
    by_cases hlike : operator = .like
    · subst hlike
      simp only [holds, Sql.predicateOf, hv, Value.text?, Except.ok.injEq] at h
      simp only [Sql.Comparison.holds, hv, ← like_iff, Bool.decide_eq_true, h]
    · simp only [holds, Sql.predicateOf, ordering, hv, Except.map, Except.ok.injEq] at h
      simp only [Sql.Comparison.holds, hv]
      rw [← Operator.holds_compareOfLessAndEq]
      exact h
  | int stored =>
    by_cases hlike : operator = .like
    · subst hlike
      simp only [holds, Sql.predicateOf, hv, Value.text?, reduceCtorEq] at h
    · -- A year was compared at all, so the text is an integer that the range holds.
      simp only [holds, Sql.predicateOf, ordering, hv] at h
      cases hread : Text.IntegerRange.int64.read (Text.trim wanted.toList) with
      | error e => simp [hread, Except.map] at h
      | ok n =>
        have hwritten := Text.integerIn?_eq_some_iff.2 (Text.read_int64_trim_iff.1 hread)
        simp only [hread, Except.map, Except.ok.injEq] at h
        simp only [Sql.Comparison.holds, hv, hwritten]
        rw [← Operator.holds_compareOfLessAndEq]
        exact h

/-- Whatever is ill-typed, a record that can be judged passes a filter when the filter's listing
keeps it. -/
theorem keeps_eq_passes (guess : Sql.Comparison → Car → Bool) (table : String) (bound : Nat)
    (filter : Filter) (p : Pagination) (car : Car) (b : Bool) (h : passes filter car = .ok b) :
    (Sql.Listing.ofQuery table bound filter p).keeps guess car = b := by
  by_cases hf : filter = []
  · subst hf
    cases h
    rfl
  · have hne : Sql.comparisons bound filter ≠ [] := by
      intro hnil
      have hmap := Sql.comparisons_predicateOf bound filter
      rw [hnil] at hmap
      exact hf hmap.symm
    rw [← Sql.comparisons_predicateOf bound filter] at h
    have hb := passes_eq_groups car Sql.predicateOf (·.holds guess car) _ hne b (fun _ _ => rfl)
      (fun x _ t ht => holds_eq_holds guess x car t ht) h
    simp only [Sql.Listing.keeps, Sql.Listing.ofQuery, if_neg hf, hb]

/-- The window in the text cuts out of fewer than `2 ^ 63` records what the page window does. -/
theorem rows_eq_apply (guess : Sql.Comparison → Car → Bool) (l : Sql.Listing) (p : Pagination)
    (cars : List Car) (hl : l.window = Sql.windowOf p) (hc : cars.length < 9223372036854775808) :
    l.rows guess cars = p.apply (cars.filter (l.keeps guess)) := by
  have hlen := List.length_filter_le (l.keeps guess) cars
  have hnat (n : UInt64) : (Int64.ofNat (min n.toNat 9223372036854775807)).toInt.toNat =
      min n.toNat 9223372036854775807 :=
    Int64.toNatClampNeg_ofNat_of_lt (by omega)
  simp only [Sql.Listing.rows, hl, Sql.windowOf, Pagination.apply, Sql.isEnabled_iff, ite_not]
  by_cases h : p.limit = 0
  · simp only [if_pos h]
  · simp only [if_neg h, hnat]
    -- A bound that was cut down to the greatest integer exceeded the number of records anyway.
    have hdrop : (cars.filter (l.keeps guess)).drop (min p.offset.toNat 9223372036854775807) =
        (cars.filter (l.keeps guess)).drop p.offset.toNat := by
      rw [List.drop_eq_drop_iff]
      omega
    rw [hdrop, List.take_eq_take_iff, List.length_drop]
    omega

/-- An answer to a query of fewer than `2 ^ 63` records is the rows that a database reads in the text
and the parameters that the query compiles to, whichever truth value the ill-typed comparisons are
given. -/
theorem run_query_eq_rows (m : Memory) (filter : Filter) (p : Pagination) (answer : Answer)
    (hm : m.cars.length < 9223372036854775808) (h : (m.run (.query filter p)).1 = .ok answer)
    (table : String) (before : List Value) :
    ∃ c l, Sql.compile table before (.run (.query filter p)) = .ok c ∧ c.listing? = some l ∧
      l.table = table ∧ ∀ guess, answer = .cars (l.rows guess m.cars) := by
  obtain ⟨c, hc⟩ : ∃ c, Sql.compile table before (.run (.query filter p)) = .ok c := ⟨_, rfl⟩
  refine ⟨c, _, hc, Sql.listing_compile table before filter p c hc, rfl, fun guess => ?_⟩
  simp only [Memory.run] at h
  cases hs : select filter m.cars with
  | error e =>
    rw [hs] at h
    cases h
  | ok found =>
    rw [hs] at h
    cases h
    -- Every record was judged, so on each of them the listing says what the store found.
    rw [rows_eq_apply guess _ p m.cars rfl hm]
    rw [select_eq_filter filter _ m.cars found
      (fun car _ b hb => keeps_eq_passes guess table before.length filter p car b hb) hs]

/-- The pattern on the year is ill-typed, but no record of that mark makes the store look at it. -/
theorem run_query_with_ill_typed :
    ∃ c l, Sql.compile "cars" [] (.run (.query [⟨.or, .mark, .eq, "Lada"⟩,
        ⟨.and, .year, .like, "2%"⟩, ⟨.or, .year, .ge, " 2001"⟩]
        ⟨18446744073709551615, 1⟩)) = .ok c ∧
      c.listing? = some l ∧ l.table = "cars" ∧
      ∀ guess, Answer.cars [{ mark := "Audi", year := 2010 }] =
        .cars (l.rows guess [{ mark := "Audi", year := 2001 }, { mark := "Volvo", year := 1990 },
          { mark := "Audi", year := 2010 }]) :=
  run_query_eq_rows
    ⟨[{ mark := "Audi", year := 2001 }, { mark := "Volvo", year := 1990 },
      { mark := "Audi", year := 2010 }], 3⟩ _ _ _ (by decide) rfl "cars" []

end Store

end VehicleRecords
