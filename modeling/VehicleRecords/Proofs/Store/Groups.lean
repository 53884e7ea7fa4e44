import VehicleRecords.Store.Matching

/-!
The groups of a filter. A new group begins at every `or` but that of the first condition, and a
record passes when all conditions of some group hold. The scan of a store, which leaves out
conditions that cannot matter, comes to the same (`passes_eq_groups`).
-/
namespace VehicleRecords

/-- The conditions that go on with the group before them, and the groups that follow. -/
def splitGroups {α : Type} : List (Connective × α) → List α × List (List α)
  | [] => ([], [])
  | (.and, a) :: rest => (a :: (splitGroups rest).1, (splitGroups rest).2)
  | (.or, a) :: rest => ([], (a :: (splitGroups rest).1) :: (splitGroups rest).2)

/-- The groups of joined conditions. The first connective joins nothing. -/
def groups {α : Type} : List (Connective × α) → List (List α)
  | [] => []
  | (_, a) :: rest => (a :: (splitGroups rest).1) :: (splitGroups rest).2

namespace Store

variable {α : Type}

/-- Grouping loses no condition and keeps their order. -/
theorem flatten_groups (xs : List (Connective × α)) :
    (groups xs).flatten = xs.map Prod.snd := by
  have hsplit (xs : List (Connective × α)) :
      (splitGroups xs).1 ++ (splitGroups xs).2.flatten = xs.map Prod.snd := by
    induction xs with
    | nil => rfl
    | cons x xs ih =>
      obtain ⟨connective, a⟩ := x
      cases connective with
      | and => exact congrArg (a :: ·) ih
      | or => exact congrArg (a :: ·) ih
  cases xs with
  | nil => rfl
  | cons x xs => exact congrArg (x.2 :: ·) (hsplit xs)

/-- Going on through a filter, with `keep` in place of the conditions: it agrees with every condition
that can be judged, and what it says of others is never asked. -/
theorem scan_eq_groups (car : Car) (predicate : Connective × α → Predicate) (keep : α → Bool)
    (found group : Bool) (xs : List (Connective × α)) (b : Bool)
    (hc : ∀ x ∈ xs, (predicate x).connective = x.1)
    (hk : ∀ x ∈ xs, ∀ t, holds (predicate x) car = .ok t → keep x.2 = t)
    (h : scan car found group (xs.map predicate) = .ok b) :
    b = (found || (group && (splitGroups xs).1.all keep) ||
      (splitGroups xs).2.any (·.all keep)) := by
  induction xs generalizing found group with
  | nil =>
    simp only [List.map_nil, scan, Except.ok.injEq] at h
    simp only [splitGroups, List.all_nil, List.any_nil, Bool.and_true, Bool.or_false, h]
  | cons x xs ih =>
    obtain ⟨c, a⟩ := x
    have hx := hk (c, a) List.mem_cons_self
    have hcx := hc (c, a) List.mem_cons_self
    have ih := fun found group => ih found group
      (fun y hy => hc y (List.mem_cons_of_mem _ hy)) (fun y hy => hk y (List.mem_cons_of_mem _ hy))
    simp only [List.map_cons, scan, hcx] at h
    -- Whether this condition is judged at all depends on the group it is read in.
    cases c with
    | and =>
      cases group with
      | false =>
        rw [ih found false h]
        simp [splitGroups]
      | true =>
        simp only [if_true] at h
        cases ht : holds (predicate (.and, a)) car with
        | error e =>
          rw [ht] at h
          cases h
        | ok t =>
          rw [ht] at h
          rw [ih found t h, ← hx t ht]
          simp [splitGroups]
    | or =>
      simp only [if_true] at h
      cases ht : holds (predicate (.or, a)) car with
      | error e =>
        rw [ht] at h
        cases h
      | ok t =>
        rw [ht] at h
        rw [ih (found || group) t h, ← hx t ht]
        simp [splitGroups, Bool.or_assoc]

/-- A record that can be judged passes a filter when some group of it holds. -/
theorem passes_eq_groups (car : Car) (predicate : Connective × α → Predicate) (keep : α → Bool)
    (xs : List (Connective × α)) (hne : xs ≠ []) (b : Bool)
    (hc : ∀ x ∈ xs, (predicate x).connective = x.1)
    (hk : ∀ x ∈ xs, ∀ t, holds (predicate x) car = .ok t → keep x.2 = t)
    (h : passes (xs.map predicate) car = .ok b) : b = (groups xs).any (·.all keep) := by
  cases xs with
  | nil => exact absurd rfl hne
  | cons x xs =>
    rw [List.map_cons, passes] at h
    cases ht : holds (predicate x) car with
    | error e =>
      rw [ht] at h
      cases h
    | ok t =>
      rw [ht] at h
      rw [scan_eq_groups car predicate keep false t xs b
        (fun y hy => hc y (List.mem_cons_of_mem _ hy))
        (fun y hy => hk y (List.mem_cons_of_mem _ hy)) h, ← hk x List.mem_cons_self t ht]
      simp [groups]

/-- A selection that succeeds keeps the records that pass. -/
theorem select_eq_filter (filter : Filter) (keep : Car → Bool) (cars found : List Car)
    (hk : ∀ car ∈ cars, ∀ b, passes filter car = .ok b → keep car = b)
    (h : select filter cars = .ok found) : found = cars.filter keep := by
  induction cars generalizing found with
  | nil =>
    cases h
    rfl
  | cons car cars ih =>
    rw [select] at h
    cases hp : passes filter car with
    | error e =>
      rw [hp] at h
      cases h
    | ok b =>
      rw [hp] at h
      cases hs : select filter cars with
      | error e =>
        rw [hs] at h
        cases h
      | ok rest =>
        rw [hs] at h
        cases h
        rw [ih rest (fun c hc => hk c (List.mem_cons_of_mem _ hc)) hs, List.filter_cons,
          hk car List.mem_cons_self b hp]

end Store

end VehicleRecords
