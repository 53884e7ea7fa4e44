import VehicleRecords.Validator

namespace VehicleRecords

def Matcher.Admits (m : Matcher) (field : Option String) : Prop :=
  ∀ value ∈ field, m.accepts value = true

namespace Validator

structure Accepts (v : Validator) (currentYear : Nat) (p : CarPatch) : Prop where
  regNum : v.regNum.Admits p.regNum
  mark : v.mark.Admits p.mark
  model : v.model.Admits p.model
  year : ∀ year ∈ p.year, minYear ≤ year.toNat ∧ year.toNat ≤ currentYear
  ownerName : v.ownerName.Admits p.ownerName
  ownerSurname : v.ownerSurname.Admits p.ownerSurname
  ownerPatronymic : v.ownerPatronymic.Admits p.ownerPatronymic

theorem check_eq_ok_iff (m : Matcher) (name : String) (field : Option String) :
    m.check name field = .ok () ↔ m.Admits field := by
  cases field with
  | none => simp [Matcher.check, Matcher.Admits]
  | some value =>
    simp only [Matcher.check, Matcher.Admits, Option.mem_some, forall_eq']
    split
    · next h => exact ⟨fun _ => h, fun _ => rfl⟩
    · next h => exact ⟨fun hok => (nomatch hok), fun hok => absurd hok h⟩

theorem checkYear_eq_ok_iff (currentYear : Nat) (field : Option UInt16) :
    checkYear currentYear field = .ok () ↔
      ∀ year ∈ field, minYear ≤ year.toNat ∧ year.toNat ≤ currentYear := by
  cases field with
  | none => simp [checkYear]
  | some year =>
    simp only [checkYear, Option.mem_some, forall_eq', Bool.and_eq_true, decide_eq_true_eq]
    split
    · next h => exact ⟨fun _ => h, fun _ => rfl⟩
    · next h => exact ⟨fun hok => (nomatch hok), fun hok => absurd hok h⟩

/-- A row of checks succeeds when each of them does. -/
theorem check_then_eq_ok_iff (check rest : Except Error Unit) :
    (check >>= fun _ => rest) = .ok () ↔ check = .ok () ∧ rest = .ok () := by
  cases check with
  | error e => exact ⟨fun h => (nomatch h), fun h => (nomatch h.1)⟩
  | ok _ => exact ⟨fun h => ⟨rfl, h⟩, fun h => h.2⟩

/-- A patch is accepted when each field that is present passes its own test. -/
theorem validate_eq_ok_iff (v : Validator) (currentYear : Nat) (p : CarPatch) :
    v.validate currentYear p = .ok () ↔ v.Accepts currentYear p := by
  rw [validate]
  simp only [check_then_eq_ok_iff, check_eq_ok_iff, checkYear_eq_ok_iff]
  constructor
  · rintro ⟨hregNum, hmark, hmodel, hyear, hname, hsurname, hpatronymic⟩
    exact ⟨hregNum, hmark, hmodel, hyear, hname, hsurname, hpatronymic⟩
  · rintro ⟨hregNum, hmark, hmodel, hyear, hname, hsurname, hpatronymic⟩
    exact ⟨hregNum, hmark, hmodel, hyear, hname, hsurname, hpatronymic⟩

end Validator

end VehicleRecords
