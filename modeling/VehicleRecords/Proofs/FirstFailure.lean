namespace VehicleRecords

variable {α β ε : Type}

theorem bind_eq_ok_iff {x : Except ε α} {f : α → Except ε β} {b : β} :
    x >>= f = .ok b ↔ ∃ a, x = .ok a ∧ f a = .ok b := by
  cases x with
  | error p => exact ⟨nofun, nofun⟩
  | ok a =>
    refine ⟨fun h => ⟨a, rfl, h⟩, ?_⟩
    rintro ⟨_, ⟨⟩, h⟩
    exact h

theorem map_eq_ok_iff {x : Except ε α} {f : α → β} {b : β} :
    x.map f = .ok b ↔ ∃ a, x = .ok a ∧ f a = b := by
  cases x with
  | error p => exact ⟨nofun, nofun⟩
  | ok a => simp [Except.map]

theorem mapError_eq_ok_iff {ε' : Type} {x : Except ε α} {f : ε → ε'} {a : α} :
    x.mapError f = .ok a ↔ x = .ok a := by
  cases x with
  | error e => exact ⟨nofun, nofun⟩
  | ok b =>
    constructor <;> rintro ⟨⟩
    · rfl
    · rfl

/-- The step succeeds on the entries of a list up to `a`, on which it fails. -/
def FailsFirst (step : α → Except ε β) (l : List α) (a : α) (e : ε) : Prop :=
  ∃ before after, l = before ++ a :: after ∧ (∀ x ∈ before, ∃ b, step x = .ok b) ∧
    step a = .error e

section

variable {step : α → Except ε β} {x : α} {l : List α}

theorem failsFirst_nil (a : α) (e : ε) : ¬ FailsFirst step [] a e := by
  rintro ⟨before, after, heq, _⟩
  cases before <;> cases heq

theorem failsFirst_cons_error {cause : ε} (h : step x = .error cause) (a : α) (e : ε) :
    FailsFirst step (x :: l) a e ↔ x = a ∧ cause = e := by
  constructor
  · rintro ⟨before, after, heq, hbefore, hfails⟩
    cases before with
    | nil =>
      cases heq
      rw [h] at hfails
      cases hfails
      exact ⟨rfl, rfl⟩
    | cons y before =>
      cases heq
      obtain ⟨b, hb⟩ := hbefore x List.mem_cons_self
      rw [h] at hb
      cases hb
  · rintro ⟨rfl, rfl⟩
    exact ⟨[], l, rfl, nofun, h⟩

theorem failsFirst_cons_ok {b : β} (h : step x = .ok b) (a : α) (e : ε) :
    FailsFirst step (x :: l) a e ↔ FailsFirst step l a e := by
  constructor
  · rintro ⟨before, after, heq, hbefore, hfails⟩
    cases before with
    | nil =>
      cases heq
      rw [h] at hfails
      cases hfails
    | cons y before =>
      cases heq
      exact ⟨before, after, rfl, fun y hy => hbefore y (List.mem_cons_of_mem x hy), hfails⟩
  · rintro ⟨before, after, rfl, hbefore, hfails⟩
    refine ⟨x :: before, after, rfl, ?_, hfails⟩
    rw [List.forall_mem_cons]
    exact ⟨⟨b, h⟩, hbefore⟩

end

variable (step : α → Except ε β)

theorem mapM_cons_error {x : α} {cause : ε} (h : step x = .error cause) (l : List α) :
    (x :: l).mapM step = .error cause := by
  rw [List.mapM_cons, h]
  rfl

theorem mapM_cons_ok {x : α} {b : β} (h : step x = .ok b) (l : List α) :
    (x :: l).mapM step = (l.mapM step).map (b :: ·) := by
  rw [List.mapM_cons, h]
  cases l.mapM step <;> rfl

/-- A chain of steps fails with the error of the first entry on which its step fails. -/
theorem mapM_eq_error_iff (l : List α) (e : ε) :
    l.mapM step = .error e ↔ ∃ a, FailsFirst step l a e := by
  induction l with
  | nil =>
    constructor
    · nofun
    · rintro ⟨a, h⟩
      exact absurd h (failsFirst_nil a e)
  | cons x l ih =>
    cases hx : step x with
    | error cause =>
      rw [mapM_cons_error step hx]
      simp only [failsFirst_cons_error hx, Except.error.injEq, exists_eq_left']
    | ok b =>
      rw [mapM_cons_ok step hx]
      simp only [failsFirst_cons_ok hx, ← ih]
      cases l.mapM step <;> simp [Except.map]

/-- A chain succeeds when its step does on every entry. -/
theorem mapM_eq_ok_iff (l : List α) :
    (∃ bs, l.mapM step = .ok bs) ↔ ∀ a ∈ l, ∃ b, step a = .ok b := by
  induction l with
  | nil => exact ⟨fun _ => nofun, fun _ => ⟨[], rfl⟩⟩
  | cons x l ih =>
    rw [List.forall_mem_cons, ← ih]
    cases hx : step x with
    | error cause =>
      rw [mapM_cons_error step hx]
      simp
    | ok b =>
      rw [mapM_cons_ok step hx]
      cases l.mapM step <;> simp [Except.map]

/-! ## Checks -/

variable (check : α → Except ε Unit)

/-- Checks are steps whose results nobody looks at. -/
theorem forM_eq_map_mapM (l : List α) : forM l check = (l.mapM check).map fun _ => () := by
  induction l with
  | nil => rfl
  | cons x l ih =>
    rw [List.forM_cons, ih]
    cases hx : check x with
    | error cause =>
      rw [mapM_cons_error check hx]
      rfl
    | ok _ =>
      rw [mapM_cons_ok check hx]
      cases l.mapM check <;> rfl

theorem forM_eq_error_iff (l : List α) (e : ε) :
    forM l check = .error e ↔ ∃ a, FailsFirst check l a e := by
  rw [← mapM_eq_error_iff, forM_eq_map_mapM]
  cases l.mapM check <;> simp [Except.map]

theorem forM_eq_ok_iff (l : List α) :
    forM l check = .ok () ↔ ∀ a ∈ l, ∃ b, check a = .ok b := by
  rw [← mapM_eq_ok_iff, forM_eq_map_mapM]
  cases l.mapM check <;> simp [Except.map]

end VehicleRecords
