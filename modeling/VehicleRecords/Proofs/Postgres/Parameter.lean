import VehicleRecords.Postgres.Connection
import VehicleRecords.Proofs.FirstFailure
import VehicleRecords.Proofs.Postgres.Meaning

/-!
Parameters as they are sent. For every value there is one parameter, which says what the value means in
the type of its placeholder (`converts_of_encodeParams`); the first value that cannot be said decides
about the failure (`unsendable_of_encodeParams`).
-/
namespace VehicleRecords.Postgres

/-- A parameter of some type that says what a value means in it; a null is said without bytes. -/
inductive Says (type : SqlType) (value : Value) : Option Bytes → Prop
  | null (h : value = .null) : Says type value none
  | datum {d : Datum} {bytes : Bytes} (hvalue : value ≠ .null) (hd : Means type value d)
      (hread : type.decode? bytes = some d) (htext : ∀ s, d = .text s → bytes = bytesOf s) :
      Says type value (some bytes)

/-- Why a value cannot be the parameter number `i` of some type, and the error that tells it. -/
inductive Unsaid (type : SqlType) (i : Nat) (value : Value) : Error → Prop
  | type (h : type.isAccepted = false) :
    Unsaid type i value (Cause.driver ⟨"error serializing parameter " ++ toString i, []⟩)
  | meaning (haccepted : type.isAccepted = true) (hvalue : value ≠ .null)
    (hnone : ¬ ∃ d, Means type value d) {given : String} (hgiven : Spells value given) :
    Unsaid type i value
      (Cause.validation "value" ("`" ++ given ++ "` is not a valid " ++ type.name))

def Prepared.Takes (p : Prepared) (i : Nat) (value : Value) (param : Option Bytes) : Prop :=
  (p.paramType i).isAccepted = true ∧ Says (p.paramType i) value param

/-- The parameters of a prepared statement for values: as many, each in the type of its placeholder. -/
structure Converts (p : Prepared) (values : List Value) (params : List (Option Bytes)) : Prop where
  length_eq : params.length = values.length
  each : ∀ i value, values[i]? = some value → ∃ param, params[i]? = some param ∧ p.Takes i value param

/-- The values in front of one can be sent, and this one cannot, as the error tells. -/
def Unsendable (p : Prepared) (values : List Value) (e : Error) : Prop :=
  ∃ i value, values[i]? = some value ∧
    (∀ j earlier, j < i → values[j]? = some earlier → ∃ param, p.Takes j earlier param) ∧
    Unsaid (p.paramType i) i value e

/-- What is written for a value says what it means. -/
theorem says_of_encode {type : SqlType} (htype : type.isAccepted = true) {value : Value}
    {param : Option Bytes} (h : encode type value = .ok param) : Says type value param := by
  by_cases hvalue : value = .null
  · subst hvalue
    cases h
    exact .null rfl
  · obtain ⟨hiff, hmeans, hrefused⟩ := (encode_by_meaning htype value).2 hvalue
    by_cases hmeaning : ∃ d, Means type value d
    · obtain ⟨d, hd⟩ := hmeaning
      obtain ⟨bytes, hbytes, hread, htext⟩ := hmeans d hd
      rw [hbytes] at h
      cases h
      exact .datum hvalue hd hread htext
    · obtain ⟨given, _, herror⟩ := hrefused hmeaning
      rw [herror] at h
      cases h

/-- A value is refused when it means nothing in the type, and the error shows it as it was given. -/
theorem unsaid_of_encode {type : SqlType} (htype : type.isAccepted = true) {value : Value}
    {refusal : BindError} (h : encode type value = .error refusal) (i : Nat) :
    Unsaid type i value (Failure.bind refusal).toError := by
  have hvalue : value ≠ .null := by
    rintro rfl
    cases h
  obtain ⟨hiff, _, hrefused⟩ := (encode_by_meaning htype value).2 hvalue
  have hnone : ¬ ∃ d, Means type value d := by
    intro hmeaning
    obtain ⟨bytes, hbytes⟩ := hiff.2 hmeaning
    rw [hbytes] at h
    cases h
  obtain ⟨given, hgiven, herror⟩ := hrefused hnone
  rw [herror] at h
  cases h
  exact .meaning htype hvalue hnone hgiven

section

variable {p : Prepared}

/-- A value behind the first one is the parameter of the next number. -/
theorem encodeParams_cases (first : Nat) (value : Value) (rest : List Value) :
    (∃ param, p.Takes first value param ∧
      encodeParams p first (value :: rest) = (encodeParams p (first + 1) rest).map (param :: ·)) ∨
    ∃ failure, Unsaid (p.paramType first) first value failure.toError ∧
      encodeParams p first (value :: rest) = .error failure := by
  rw [encodeParams]
  cases htype : (p.paramType first).isAccepted with
  | false =>
    rw [if_neg Bool.false_ne_true]
    exact .inr ⟨_, .type htype, rfl⟩
  | true =>
    rw [if_pos rfl]
    cases hencode : encode (p.paramType first) value with
    | ok param => exact .inl ⟨param, ⟨htype, says_of_encode htype hencode⟩, rfl⟩
    | error refusal => exact .inr ⟨.bind refusal, unsaid_of_encode htype hencode first, rfl⟩

/-- The parameters from the number `first` on. -/
theorem takes_of_encodeParams {values : List Value} {first : Nat} {params : List (Option Bytes)}
    (h : encodeParams p first values = .ok params) :
    params.length = values.length ∧ ∀ i value, values[i]? = some value →
      ∃ param, params[i]? = some param ∧ p.Takes (first + i) value param := by
  induction values generalizing first params with
  | nil =>
    cases h
    exact ⟨rfl, nofun⟩
  | cons value rest ih =>
    rcases encodeParams_cases (p := p) first value rest with ⟨param, htakes, hcons⟩ | ⟨_, _, hcons⟩
    · rw [hcons] at h
      obtain ⟨more, hmore, rfl⟩ := map_eq_ok_iff.1 h
      obtain ⟨hlength, heach⟩ := ih hmore
      refine ⟨congrArg (· + 1) hlength, fun i v hv => ?_⟩
      cases i with
      | zero =>
        cases hv
        exact ⟨param, rfl, htakes⟩
      | succ i =>
        obtain ⟨next, hnext, hnextTakes⟩ := heach i v hv
        rw [Nat.add_assoc, Nat.add_comm 1] at hnextTakes
        exact ⟨next, hnext, hnextTakes⟩
    · rw [hcons] at h
      cases h

theorem unsaid_of_encodeParams {values : List Value} {first : Nat} {failure : Failure}
    (h : encodeParams p first values = .error failure) :
    ∃ i value, values[i]? = some value ∧
      (∀ j earlier, j < i → values[j]? = some earlier →
        ∃ param, p.Takes (first + j) earlier param) ∧
      Unsaid (p.paramType (first + i)) (first + i) value failure.toError := by
  induction values generalizing first with
  | nil => cases h
  | cons value rest ih =>
    rcases encodeParams_cases (p := p) first value rest with
      ⟨param, htakes, hcons⟩ | ⟨failure', hunsaid, hcons⟩
    · rw [hcons] at h
      cases hrest : encodeParams p (first + 1) rest with
      | ok more =>
        rw [hrest] at h
        cases h
      | error failure' =>
        rw [hrest] at h
        cases h
        obtain ⟨i, v, hv, hbefore, hunsaid⟩ := ih hrest
        rw [Nat.add_assoc, Nat.add_comm 1] at hunsaid
        refine ⟨i + 1, v, hv, fun j earlier hj hearlier => ?_, hunsaid⟩
        cases j with
        | zero =>
          cases hearlier
          exact ⟨param, htakes⟩
        | succ j =>
          rw [Nat.add_comm j, ← Nat.add_assoc]
          exact hbefore j earlier (Nat.lt_of_succ_lt_succ hj) hearlier
    · rw [hcons] at h
      cases h
      exact ⟨0, value, rfl, fun j _ hj => absurd hj (Nat.not_lt_zero j), hunsaid⟩

variable {values : List Value}

theorem converts_of_encodeParams {params : List (Option Bytes)}
    (h : encodeParams p 0 values = .ok params) : Converts p values params := by
  obtain ⟨hlength, heach⟩ := takes_of_encodeParams h
  simp only [Nat.zero_add] at heach
  exact ⟨hlength, heach⟩

theorem unsendable_of_encodeParams {failure : Failure}
    (h : encodeParams p 0 values = .error failure) : Unsendable p values failure.toError := by
  obtain ⟨i, value, hvalue, hbefore, hunsaid⟩ := unsaid_of_encodeParams h
  simp only [Nat.zero_add] at hbefore hunsaid
  exact ⟨i, value, hvalue, hbefore, hunsaid⟩

end

end VehicleRecords.Postgres
