import VehicleRecords.Proofs.Postgres.Meaning
import VehicleRecords.Proofs.Postgres.Storage
import VehicleRecords.Proofs.Store.Listing

/-!
The texts that the year can be compared with, in memory and in a database. Both read a decimal integer
between white space, but the store in memory takes one of 64 bits and the column of the database one
of 32: they accept the same texts up to the integers in between (`year_texts_accepted`).
-/
namespace VehicleRecords

open Text (Fits)

namespace Postgres

theorem denotes_unique {s : String} {n k : Int} (hn : Denotes (.text s) n)
    (hk : Denotes (.text s) k) : n = k := by
  cases hn with
  | numeral hn =>
    cases hk with
    | numeral hk => exact hn.unique hk

/-- What fits into 32 bits fits into 64. -/
theorem fits_eight_of_four {n : Int} (h : Fits 4 n) : Fits 8 n := by
  simp only [Fits] at h ⊢
  omega

/-- An integer type reads exactly the texts of the integers that fit its width. -/
theorem integerOf?_text_iff (type : SqlType) {size : Nat} (hwidth : type.width? = some size)
    {range : Text.IntegerRange} (htype : type.integer? = some (range, size)) (s : String) (n : Int) :
    integerOf? range (.text s) = some n ↔ Denotes (.text s) n ∧ Fits size n := by
  obtain ⟨range', htype', hr, hfits⟩ := integer?_of_width? hwidth
  rw [htype] at htype'
  cases htype'
  rw [integerOf?_eq_some_iff hr, hfits]

/-- An integer type takes the texts that write an integer of its width. -/
theorem encode_text_ok_iff (type : SqlType) {size : Nat} (hwidth : type.width? = some size)
    (s : String) :
    (∃ bytes, encode type (.text s) = .ok bytes) ↔ ∃ n, Denotes (.text s) n ∧ Fits size n := by
  obtain ⟨range, htype, -, -⟩ := integer?_of_width? hwidth
  simp only [← integerOf?_text_iff type hwidth htype]
  constructor
  · rintro ⟨bytes, hbytes⟩
    cases hread : integerOf? range (.text s) with
    | some n => exact ⟨n, rfl⟩
    | none =>
      have hvalue : Value.text s ≠ .null := nofun
      rw [encode_of_no_integer htype hvalue hread] at hbytes
      cases hbytes
  · rintro ⟨n, hn⟩
    exact ⟨_, encode_of_integer htype hn⟩

end Postgres

namespace Store

open Postgres

/-- The store can judge a comparison of the year exactly when its text denotes an integer of 64
bits. -/
theorem judged_year_iff {p : Predicate} (hcolumn : p.column = .year) (hlike : p.operator ≠ .like)
    (car : Car) :
    (∃ b, holds p car = .ok b) ↔ ∃ n, Denotes (.text p.value) n ∧ Fits 8 n := by
  have hread (n : Int) : Text.IntegerRange.int64.read (Text.trim p.value.toList) = .ok n ↔
      Denotes (.text p.value) n ∧ Fits 8 n := by
    rw [← toOption_eq_some_iff]
    exact integerOf?_text_iff .int8 rfl rfl p.value n
  simp only [← hread]
  rcases holds_cases p car with ⟨hill, e, he, -⟩ | ⟨hwell, b, hb⟩
  · refine iff_of_false ?_ ?_
    · rintro ⟨b, hb⟩
      rw [he] at hb
      cases hb
    · rintro ⟨n, hn⟩
      exact hill.2.elim hlike fun hnone => hnone n hn
  · refine iff_of_true ⟨b, hb⟩ ?_
    by_contra hnone
    exact hwell ⟨hcolumn, .inr fun n hn => hnone ⟨n, hn⟩⟩

/-- A condition whose value can be converted to the type of its column is not ill-typed, unless it is a
pattern for the year. -/
theorem not_illTyped_of_bound {p : Predicate}
    (hlike : p.column = .year → p.operator ≠ .like)
    (hbound : ∃ bytes, encode (storedType p.column) (.text p.value) = .ok bytes) : ¬ IllTyped p := by
  intro hill
  have hcolumn := hill.1
  rw [hcolumn] at hbound
  obtain ⟨n, hn, hfits⟩ := (encode_text_ok_iff .int4 rfl p.value).1 hbound
  obtain ⟨b, hb⟩ := (judged_year_iff hcolumn (hlike hcolumn) {}).2
    ⟨n, hn, fits_eight_of_four hfits⟩
  rcases holds_cases p {} with ⟨-, e, he, -⟩ | ⟨hwell, -⟩
  · rw [he] at hb
    cases hb
  · exact hwell hill

/-- Let the record table be made by its statement. Of the texts that the year can be compared with,
the store in memory judges those that denote an integer of 64 bits, for every record, and the
conversion to the type of the year's column accepts those that denote one of 32 bits. So the two agree
on a text unless it denotes an integer that needs more than 32 bits and no more than 64. A listing
without a pattern for the year whose values can all be converted is one that the store serves, whatever
its records are. -/
theorem year_texts_accepted {name : String} {ifNotExists : Bool} {create : Sql.Compiled}
    {table : Columns} (hcreate : Sql.compile name [] (.createTable ifNotExists) = .ok create)
    (htable : tableOf? create = some table) :
    (∀ connective operator value, operator ≠ .like → ∀ car,
      ((∃ b, holds ⟨connective, .year, operator, value⟩ car = .ok b) ↔
        ∃ n, Denotes (.text value) n ∧ Fits 8 n) ∧
      ((∃ bytes, encode (typeIn table Column.year.name) (.text value) = .ok bytes) ↔
        ∃ n, Denotes (.text value) n ∧ Fits 4 n) ∧
      (((∃ b, holds ⟨connective, .year, operator, value⟩ car = .ok b) ↔
          ∃ bytes, encode (typeIn table Column.year.name) (.text value) = .ok bytes) ↔
        ∀ n, Denotes (.text value) n → Fits 8 n → Fits 4 n)) ∧
    ∀ (filter : Filter) (page : Pagination) (m : LoggedMemory),
      (∀ p ∈ filter, p.column = .year → p.operator ≠ .like) →
      (∀ p ∈ filter, ∃ bytes, encode (typeIn table p.column.name) (.text p.value) = .ok bytes) →
      ∃ cars, (LoggedMemory.backend.listCars filter page m).1 = .ok cars := by
  rw [tableOf?_compile hcreate] at htable
  cases htable
  simp only [typeIn_recordTable]
  refine ⟨fun connective operator value hlike car => ?_, fun filter page m hlike hbound => ?_⟩
  · have hjudged := judged_year_iff (p := ⟨connective, .year, operator, value⟩) rfl hlike car
    have hbound := encode_text_ok_iff (storedType .year) rfl value
    refine ⟨hjudged, hbound, ?_⟩
    rw [hjudged, hbound]
    constructor
    · intro hagree n hn hfits
      obtain ⟨k, hk, hsmall⟩ := hagree.1 ⟨n, hn, hfits⟩
      rw [denotes_unique hn hk]
      exact hsmall
    · intro hsmall
      constructor
      · rintro ⟨n, hn, hfits⟩
        exact ⟨n, hn, hsmall n hn hfits⟩
      · rintro ⟨n, hn, hfits⟩
        exact ⟨n, hn, fits_eight_of_four hfits⟩
  · rcases LoggedMemory.listCars_cases (b := LoggedMemory.backend) rfl filter page m with
      ⟨cars, t, hrun, -⟩ | ⟨e, t, -, -, car, -, group, hgroup, front, p, back, rfl, -, hill⟩
    · exact ⟨cars, by rw [hrun]⟩
    · -- The condition that the store gets stuck on is one of the filter's.
      have hp : p ∈ filter :=
        mem_of_mem_groupsOf hgroup (List.mem_append_right front List.mem_cons_self)
      exact absurd hill (not_illTyped_of_bound (hlike p hp) (hbound p hp))

/-- The least year of 32 bits, between wide and narrow white space, is accepted by both. The first one
too many, with a sign, is accepted in memory only. -/
theorem year_texts_at_the_limits :
    ∃ create, Sql.compile "cars" [] (.createTable true) = .ok create ∧
      tableOf? create = some recordTable ∧
      ∀ car, (∃ b, holds ⟨.or, .year, .ge, "\u2003-2147483648 "⟩ car = .ok b) ∧
        (∃ bytes, encode (typeIn recordTable Column.year.name) (.text "\u2003-2147483648 ") =
          .ok bytes) ∧
        (∃ b, holds ⟨.and, .year, .ne, "+2147483648"⟩ car = .ok b) ∧
        ¬ ∃ bytes, encode (typeIn recordTable Column.year.name) (.text "+2147483648") =
          .ok bytes := by
  have hcreate : Sql.compile "cars" [] (.createTable true) = .ok _ := rfl
  have htable := tableOf?_compile hcreate
  have hleast : Denotes (.text "\u2003-2147483648 ") (-2147483648) :=
    .numeral ⟨_, Text.trimmed_trim _, by decide⟩
  have hbeyond : Denotes (.text "+2147483648") 2147483648 :=
    .numeral ⟨_, Text.trimmed_trim _, by decide⟩
  refine ⟨_, hcreate, htable, fun car => ?_⟩
  obtain ⟨hjudged, hbound, -⟩ :=
    (year_texts_accepted hcreate htable).1 .or .ge "\u2003-2147483648 " nofun car
  obtain ⟨hjudged', -, hagree⟩ :=
    (year_texts_accepted hcreate htable).1 .and .ne "+2147483648" nofun car
  have hserved := hjudged'.2 ⟨_, hbeyond, by decide, by decide⟩
  refine ⟨hjudged.2 ⟨_, hleast, by decide, by decide⟩, hbound.2 ⟨_, hleast, by decide, by decide⟩,
    hserved, fun h => ?_⟩
  have hfits := hagree.1 (iff_of_true hserved h) _ hbeyond ⟨by decide, by decide⟩
  exact absurd hfits.2 (by decide)

/-- The store in memory serves a listing by a year that cannot be converted to the type of the
column. -/
theorem year_text_beyond_column :
    typeIn recordTable Column.year.name = .int4 ∧
    holds ⟨.and, .year, .eq, "2147483648"⟩ { id := 1, regNum := "A1" } = .ok false ∧
    (LoggedMemory.backend.listCars [⟨.and, .year, .eq, "2147483648"⟩] {}
      ⟨⟨[{ id := 1, regNum := "A1" }], 1⟩, []⟩).1 = .ok [] ∧
    encode .int4 (.text "2147483648") = .error ⟨"2147483648", .int4⟩ ∧
    ¬ ((∃ b, holds ⟨.and, .year, .eq, "2147483648"⟩ { id := 1, regNum := "A1" } = .ok b) ↔
      ∃ bytes, encode .int4 (.text "2147483648") = .ok bytes) := by
  have hserved : holds ⟨.and, .year, .eq, "2147483648"⟩ { id := 1, regNum := "A1" } = .ok false :=
    by rfl
  have hrejected : encode .int4 (.text "2147483648") = .error ⟨"2147483648", .int4⟩ := by rfl
  refine ⟨rfl, hserved, by rfl, hrejected, fun h => ?_⟩
  obtain ⟨bytes, hbytes⟩ := h.1 ⟨false, hserved⟩
  rw [hrejected] at hbytes
  cases hbytes

end Store

end VehicleRecords
