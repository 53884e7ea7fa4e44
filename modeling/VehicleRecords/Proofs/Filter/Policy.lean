import VehicleRecords.Filter.Grammar
import VehicleRecords.Proofs.FirstFailure

namespace VehicleRecords

def Grammar.read (g : Grammar) (field : Column × String) : Except Error Predicate :=
  g.parse field.1 field.2

namespace Filter

/-- A filter after one more field. A field that cannot be read leaves it as it is, or is the failure. -/
def extend (g : Grammar) (policy : FilterPolicy) (filter : Filter) (field : Column × String) :
    Except Error Filter :=
  match g.add filter field.1 field.2, policy with
  | .ok longer, _ => .ok longer
  | .error _, .skip => .ok filter
  | .error e, .reject => .error e

def readable (g : Grammar) (fields : List (Column × String)) : List (Column × String) :=
  fields.filter fun field => (g.read field).isOk

def conditions (g : Grammar) (fields : List (Column × String)) : Filter :=
  fields.filterMap fun field => (g.read field).toOption

section

variable {g : Grammar} {field : Column × String} {p : Predicate} {e : Error}

theorem build_cons_ok (policy : FilterPolicy) (h : g.read field = .ok p)
    (rest : List (Column × String)) :
    build g policy (field :: rest) = (build g policy rest).map (p :: ·) := by
  rw [Grammar.read] at h
  simp only [build, h]

theorem build_cons_error (policy : FilterPolicy) (h : g.read field = .error e)
    (rest : List (Column × String)) :
    build g policy (field :: rest) =
      match policy with
      | .skip => build g .skip rest
      | .reject => .error e := by
  rw [Grammar.read] at h
  cases policy <;> simp only [build, h]

theorem extend_ok (policy : FilterPolicy) (h : g.read field = .ok p) (filter : Filter) :
    extend g policy filter field = .ok (filter ++ [p]) := by
  rw [Grammar.read] at h
  simp only [extend, Grammar.add, h, Except.map]

theorem extend_error (policy : FilterPolicy) (h : g.read field = .error e) (filter : Filter) :
    extend g policy filter field =
      match policy with
      | .skip => .ok filter
      | .reject => .error e := by
  rw [Grammar.read] at h
  cases policy <;> simp only [extend, Grammar.add, h, Except.map]

theorem conditions_cons_ok (h : g.read field = .ok p) (rest : List (Column × String)) :
    conditions g (field :: rest) = p :: conditions g rest := by
  rw [conditions, List.filterMap_cons, h]
  rfl

theorem conditions_cons_error (h : g.read field = .error e) (rest : List (Column × String)) :
    conditions g (field :: rest) = conditions g rest := by
  rw [conditions, List.filterMap_cons, h]
  rfl

end

variable (g : Grammar)

/-- Conditions are added behind those that were read before. -/
theorem foldlM_extend (policy : FilterPolicy) (fields : List (Column × String)) (filter : Filter) :
    fields.foldlM (extend g policy) filter = (build g policy fields).map (filter ++ ·) := by
  induction fields generalizing filter with
  | nil => exact congrArg Except.ok (List.append_nil filter).symm
  | cons field rest ih =>
    rw [List.foldlM_cons]
    cases hfield : g.read field with
    | ok p =>
      rw [extend_ok policy hfield, build_cons_ok policy hfield]
      dsimp only [bind, Except.bind]
      rw [ih]
      cases build g policy rest with
      | error e => rfl
      | ok more => exact congrArg Except.ok (List.append_assoc filter [p] more)
    | error e =>
      rw [extend_error policy hfield, build_cons_error policy hfield]
      cases policy with
      | skip => exact ih filter
      | reject => rfl

/-- What cannot be read is left out, and nothing fails. -/
theorem build_skip (fields : List (Column × String)) :
    build g .skip fields = .ok (conditions g fields) := by
  induction fields with
  | nil => rfl
  | cons field rest ih =>
    cases hfield : g.read field with
    | ok p =>
      rw [build_cons_ok _ hfield, conditions_cons_ok hfield, ih]
      rfl
    | error e =>
      rw [build_cons_error _ hfield, conditions_cons_error hfield]
      exact ih

/-- The first field that cannot be read decides about the failure. -/
theorem build_reject (fields : List (Column × String)) :
    build g .reject fields = fields.mapM g.read := by
  induction fields with
  | nil => rfl
  | cons field rest ih =>
    cases hfield : g.read field with
    | ok p => rw [build_cons_ok _ hfield, mapM_cons_ok _ hfield, ih]
    | error e => rw [build_cons_error _ hfield, mapM_cons_error _ hfield]

/-- Where every field can be read, the policy has nothing to decide. -/
theorem build_readable (fields : List (Column × String)) :
    build g .reject (readable g fields) = .ok (conditions g fields) := by
  induction fields with
  | nil => rfl
  | cons field rest ih =>
    cases hfield : g.read field with
    | ok p =>
      have hread : (g.read field).isOk = true := by rw [hfield]; rfl
      rw [readable] at ih ⊢
      rw [List.filter_cons_of_pos (by exact hread), build_cons_ok _ hfield, ih,
        conditions_cons_ok hfield]
      rfl
    | error e =>
      have hunread : ¬ (g.read field).isOk = true := by rw [hfield]; exact nofun
      rw [readable, List.filter_cons_of_neg (by exact hunread), conditions_cons_error hfield]
      exact ih

theorem readable_eq_self {fields : List (Column × String)}
    (h : ∀ field ∈ fields, ∃ p, g.read field = .ok p) : readable g fields = fields := by
  rw [readable, List.filter_eq_self]
  intro field hfield
  obtain ⟨p, hp⟩ := h field hfield
  rw [hp]
  rfl

end Filter

end VehicleRecords
