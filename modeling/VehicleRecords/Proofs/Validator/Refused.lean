import VehicleRecords.Proofs.FirstFailure
import VehicleRecords.Proofs.Validator.Accepted

/-!
The patches that a validator refuses. A patch is checked column by column, each column by its own rule
and only where the patch sets it, and the failure names the first column that breaks its rule
(`validate_eq_error_iff`). A patch is accepted where no column breaks its rule (`accepts_iff`).
-/
namespace VehicleRecords

def Column.fieldName : Column → String
  | .regNum => "regNum"
  | .mark => "mark"
  | .model => "model"
  | .year => "year"
  | .ownerName => "owner.name"
  | .ownerSurname => "owner.surname"
  | .ownerPatronymic => "owner.patronymic"

theorem Value.text?_eq_some_iff (value : Value) (s : String) :
    value.text? = some s ↔ value = .text s := by
  cases value <;> simp [Value.text?]

namespace Validator

def matcher? (v : Validator) : Column → Option Matcher
  | .regNum => some v.regNum
  | .mark => some v.mark
  | .model => some v.model
  | .year => none
  | .ownerName => some v.ownerName
  | .ownerSurname => some v.ownerSurname
  | .ownerPatronymic => some v.ownerPatronymic

/-- The value that a patch sets a column to breaks the column's rule, for a reason. -/
inductive Refuses (v : Validator) (currentYear : Nat) (p : CarPatch) : Column → String → Prop
  | text {c : Column} {m : Matcher} {value : String} (hm : v.matcher? c = some m)
      (hvalue : p.value? c = some (.text value)) (hrefused : m.accepts value = false) :
      Refuses v currentYear p c ("`" ++ value ++ "` does not match `" ++ m.pattern ++ "`")
  | year {year : UInt16} (hyear : p.year = some year)
      (hrange : year.toNat < minYear ∨ currentYear < year.toNat) :
      Refuses v currentYear p .year
        ("must be between " ++ toString minYear ++ " and " ++ toString currentYear)

/-- The value of the column is refused, and that of no column before it. -/
def RefusesFirst (v : Validator) (currentYear : Nat) (p : CarPatch) (c : Column) (reason : String) :
    Prop :=
  ∃ before after, Column.all = before ++ c :: after ∧
    (∀ earlier ∈ before, ∀ reason, ¬ v.Refuses currentYear p earlier reason) ∧
    v.Refuses currentYear p c reason

theorem check_eq_error_iff (m : Matcher) (name : String) (field : Option String) (e : Error) :
    m.check name field = .error e ↔ ∃ value, field = some value ∧ m.accepts value = false ∧
      e = .validation name ("`" ++ value ++ "` does not match `" ++ m.pattern ++ "`") := by
  cases field with
  | none => simp [Matcher.check]
  | some value => cases h : m.accepts value <;> simp [Matcher.check, h, @eq_comm _ e]

theorem checkYear_eq_error_iff (currentYear : Nat) (field : Option UInt16) (e : Error) :
    checkYear currentYear field = .error e ↔
      ∃ year, field = some year ∧ (year.toNat < minYear ∨ currentYear < year.toNat) ∧
        e = .validation "year"
          ("must be between " ++ toString minYear ++ " and " ++ toString currentYear) := by
  cases field with
  | none => simp [checkYear]
  | some year =>
    by_cases h : minYear ≤ year.toNat ∧ year.toNat ≤ currentYear
    · have hout : ¬ (year.toNat < minYear ∨ currentYear < year.toNat) := by omega
      simp [checkYear, h, hout]
    · have hout : year.toNat < minYear ∨ currentYear < year.toNat := by omega
      simp [checkYear, h, hout, @eq_comm _ e]

/-! ## Columns -/

def checkColumn (v : Validator) (currentYear : Nat) (p : CarPatch) (c : Column) :
    Except Error Unit :=
  match v.matcher? c with
  | some m => m.check c.fieldName ((p.value? c).bind Value.text?)
  | none => checkYear currentYear p.year

section

variable (v : Validator) (currentYear : Nat) (p : CarPatch)

theorem validate_eq_forM :
    v.validate currentYear p = forM Column.all (v.checkColumn currentYear p) := by
  have htext (field : Option String) : (field.map Value.text).bind Value.text? = field := by
    cases field <;> rfl
  simp only [validate, Column.all, List.forM_cons, List.forM_nil, checkColumn, matcher?,
    CarPatch.value?, Column.fieldName, htext, bind_pure_unit]

theorem eq_year_of_matcher?_eq_none {c : Column} (h : v.matcher? c = none) : c = .year := by
  cases c <;> first | rfl | cases h

/-- The check of a column fails when the rule of the column is broken, and names its field and the
reason. -/
theorem checkColumn_eq_error_iff (c : Column) (e : Error) :
    v.checkColumn currentYear p c = .error e ↔
      ∃ reason, v.Refuses currentYear p c reason ∧ e = .validation c.fieldName reason := by
  rw [checkColumn]
  cases hm : v.matcher? c with
  | some m =>
    dsimp only
    simp only [check_eq_error_iff, Option.bind_eq_some_iff, Value.text?_eq_some_iff,
      exists_eq_right]
    constructor
    · rintro ⟨value, hvalue, hrefused, rfl⟩
      exact ⟨_, .text hm hvalue hrefused, rfl⟩
    · rintro ⟨reason, h, rfl⟩
      cases h with
      | text hm' hvalue hrefused =>
        rw [hm] at hm'
        cases hm'
        exact ⟨_, hvalue, hrefused, rfl⟩
      | year => cases hm
  | none =>
    cases v.eq_year_of_matcher?_eq_none hm
    dsimp only
    rw [checkYear_eq_error_iff]
    constructor
    · rintro ⟨year, hyear, hrange, rfl⟩
      exact ⟨_, .year hyear hrange, rfl⟩
    · rintro ⟨reason, h, rfl⟩
      cases h with
      | text hm' => cases hm'
      | year hyear hrange => exact ⟨_, hyear, hrange, rfl⟩

theorem checkColumn_eq_ok_iff (c : Column) :
    (∃ b, v.checkColumn currentYear p c = .ok b) ↔
      ∀ reason, ¬ v.Refuses currentYear p c reason := by
  constructor
  · rintro ⟨b, hb⟩ reason h
    have herror := (v.checkColumn_eq_error_iff currentYear p c _).2 ⟨reason, h, rfl⟩
    rw [hb] at herror
    cases herror
  · intro h
    cases hc : v.checkColumn currentYear p c with
    | ok b => exact ⟨b, rfl⟩
    | error e =>
      obtain ⟨reason, hreason, _⟩ := (v.checkColumn_eq_error_iff currentYear p c e).1 hc
      exact absurd hreason (h reason)

/-- A column that the patch does not set is not checked. -/
theorem checkColumn_of_absent {c : Column} (h : p.value? c = none) :
    v.checkColumn currentYear p c = .ok () := by
  rw [checkColumn]
  cases hm : v.matcher? c with
  | some m =>
    dsimp only
    rw [h]
    rfl
  | none =>
    cases v.eq_year_of_matcher?_eq_none hm
    rw [CarPatch.value?, Option.map_eq_none_iff] at h
    dsimp only
    rw [h]
    rfl

/-! ## Patches -/

/-- The failure of a validation is the one of the first column whose value is refused. -/
theorem validate_eq_error_iff (e : Error) :
    v.validate currentYear p = .error e ↔
      ∃ c reason, v.RefusesFirst currentYear p c reason ∧ e = .validation c.fieldName reason := by
  rw [validate_eq_forM, forM_eq_error_iff]
  simp only [FailsFirst, RefusesFirst, checkColumn_eq_ok_iff, checkColumn_eq_error_iff]
  constructor
  · rintro ⟨c, before, after, hall, hbefore, reason, hreason, he⟩
    exact ⟨c, reason, ⟨before, after, hall, hbefore, hreason⟩, he⟩
  · rintro ⟨c, reason, ⟨before, after, hall, hbefore, hreason⟩, he⟩
    exact ⟨c, before, after, hall, hbefore, reason, hreason, he⟩

theorem accepts_iff :
    v.Accepts currentYear p ↔ ∀ c reason, ¬ v.Refuses currentYear p c reason := by
  rw [← validate_eq_ok_iff, validate_eq_forM, forM_eq_ok_iff]
  simp only [checkColumn_eq_ok_iff, Column.mem_all, forall_const]

/-- Only the tests of the columns that a patch sets have a say. -/
theorem validate_congr {v v' : Validator}
    (h : ∀ c, p.value? c ≠ none → v.matcher? c = v'.matcher? c) :
    v.validate currentYear p = v'.validate currentYear p := by
  have hchecks : v.checkColumn currentYear p = v'.checkColumn currentYear p := by
    funext c
    by_cases hc : p.value? c = none
    · rw [checkColumn_of_absent _ _ _ hc, checkColumn_of_absent _ _ _ hc]
    · rw [checkColumn, checkColumn, h c hc]
  rw [validate_eq_forM, validate_eq_forM, hchecks]

end

end Validator

end VehicleRecords
