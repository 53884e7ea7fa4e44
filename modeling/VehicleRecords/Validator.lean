import VehicleRecords.Car
import VehicleRecords.Regex.Parser

/-!
Checks of submitted patches: each text field against its own pattern, and the year against a range.
Absent fields are not checked.
-/
namespace VehicleRecords

/-- The patterns of the text fields. The empty pattern accepts every text. -/
structure Patterns where
  regNum : String := ""
  mark : String := ""
  model : String := ""
  ownerName : String := ""
  ownerSurname : String := ""
  ownerPatronymic : String := ""
  deriving DecidableEq, Repr, Inhabited

/-- A test of texts, with the pattern it comes from. -/
structure Matcher where
  pattern : String
  accepts : String → Bool

structure Validator where
  regNum : Matcher
  mark : Matcher
  model : Matcher
  ownerName : Matcher
  ownerSurname : Matcher
  ownerPatronymic : Matcher

/-- The earliest year accepted. -/
def minYear : Nat := 1900

namespace Matcher

/-- Compiles the pattern of the field that settings call `field`. -/
def compile (field pattern : String) : Except Error Matcher :=
  match Regex.parse pattern with
  | .ok regex => .ok ⟨pattern, regex.isMatch⟩
  | .error e =>
    .error ((Error.foreign e.message).context
      (Cause.adhoc ("invalid `validator." ++ field ++ "` pattern")))

/-- A present value has to match. -/
def check (m : Matcher) (field : String) : Option String → Except Error Unit
  | none => .ok ()
  | some value =>
    if m.accepts value then .ok ()
    else .error (.validation field ("`" ++ value ++ "` does not match `" ++ m.pattern ++ "`"))

end Matcher

namespace Validator

def compile (p : Patterns) : Except Error Validator := do
  let regNum ← Matcher.compile "reg_num" p.regNum
  let mark ← Matcher.compile "mark" p.mark
  let model ← Matcher.compile "model" p.model
  let ownerName ← Matcher.compile "owner_name" p.ownerName
  let ownerSurname ← Matcher.compile "owner_surname" p.ownerSurname
  let ownerPatronymic ← Matcher.compile "owner_patronymic" p.ownerPatronymic
  return { regNum, mark, model, ownerName, ownerSurname, ownerPatronymic }

/-- A present year lies between the earliest one and the current one. -/
def checkYear (currentYear : Nat) : Option UInt16 → Except Error Unit
  | none => .ok ()
  | some year =>
    if minYear ≤ year.toNat && year.toNat ≤ currentYear then .ok ()
    else
      .error (.validation "year"
        ("must be between " ++ toString minYear ++ " and " ++ toString currentYear))

/-- The first field that breaks its rule decides. -/
def validate (v : Validator) (currentYear : Nat) (patch : CarPatch) : Except Error Unit := do
  v.regNum.check "regNum" patch.regNum
  v.mark.check "mark" patch.mark
  v.model.check "model" patch.model
  checkYear currentYear patch.year
  v.ownerName.check "owner.name" patch.ownerName
  v.ownerSurname.check "owner.surname" patch.ownerSurname
  v.ownerPatronymic.check "owner.patronymic" patch.ownerPatronymic

end Validator

end VehicleRecords
