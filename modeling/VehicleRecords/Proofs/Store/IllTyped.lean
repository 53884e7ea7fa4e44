import Mathlib.Data.List.Basic
import VehicleRecords.Proofs.Store.Groups
import VehicleRecords.Proofs.Store.Outcome

/-!
Filters that cannot be judged. A condition is ill-typed when it asks of the year what a number cannot
be asked. A store looks at it where the conditions before it in its group hold, and gets stuck there
(`select_error_iff`); the records decide which conditions it looks at. A record that is judged passes
when it passes all conditions of some group (`passes_iff`).
-/
namespace VehicleRecords.Store

/-- A pattern for the year, or a comparison of the year with a text that is no 64-bit integer. -/
def IllTyped (p : Predicate) : Prop :=
  p.column = .year ∧
    (p.operator = .like ∨ ∀ n, Text.IntegerRange.int64.read (Text.trim p.value.toList) ≠ .ok n)

/-- A condition of the group is ill-typed, and those before it hold of the record. -/
def Stuck (car : Car) (group : List Predicate) : Prop :=
  ∃ front p back, group = front ++ p :: back ∧ (∀ q ∈ front, holds q car = .ok true) ∧ IllTyped p

def joined (filter : Filter) : List (Connective × Predicate) :=
  filter.map fun p => (p.connective, p)

def groupsOf (filter : Filter) : List (List Predicate) := groups (joined filter)

def Unjudged (e : Error) : Prop :=
  e = .adhoc "operator does not exist: integer ~~ text" ∨ ∃ text, e = .foreign text

theorem map_snd_joined (filter : Filter) : (joined filter).map Prod.snd = filter := by
  simp only [joined, List.map_map, Function.comp_def, List.map_id']

/-- The conditions of the groups are those of the filter. -/
theorem mem_of_mem_groupsOf {filter : Filter} {group : List Predicate} {p : Predicate}
    (hgroup : group ∈ groupsOf filter) (hp : p ∈ group) : p ∈ filter := by
  have hmem : p ∈ (groups (joined filter)).flatten := List.mem_flatten_of_mem hgroup hp
  rwa [flatten_groups, map_snd_joined] at hmem

/-! ## One condition -/

theorem value_year (car : Car) : ∃ stored, car.value .year = .int stored := ⟨_, rfl⟩

theorem value_of_ne_year {c : Column} (h : c ≠ .year) (car : Car) :
    ∃ stored, car.value c = .text stored := by
  cases c with
  | year => exact absurd rfl h
  | regNum | mark | model | ownerName | ownerSurname | ownerPatronymic => exact ⟨_, rfl⟩

theorem holds_of_ne_like {p : Predicate} (h : p.operator ≠ .like) (car : Car) :
    holds p car = (ordering p car).map p.operator.holds := by
  obtain ⟨connective, column, operator, wanted⟩ := p
  cases operator with
  | like => exact absurd rfl h
  | eq | ne | gt | ge | lt | le => rfl

/-- Whether a condition can be judged does not depend on the record. -/
theorem holds_cases (p : Predicate) (car : Car) :
    (IllTyped p ∧ ∃ e, holds p car = .error e ∧ Unjudged e) ∨
      (¬ IllTyped p ∧ ∃ b, holds p car = .ok b) := by
  obtain ⟨connective, column, operator, wanted⟩ := p
  by_cases hyear : column = .year
  · subst hyear
    obtain ⟨stored, hstored⟩ := value_year car
    by_cases hlike : operator = .like
    · subst hlike
      refine .inl ⟨⟨rfl, .inl rfl⟩, _, ?_, .inl rfl⟩
      simp only [holds, hstored, Value.text?]
    · rw [holds_of_ne_like hlike, ordering]
      simp only [hstored]
      cases hread : Text.IntegerRange.int64.read (Text.trim wanted.toList) with
      | error e =>
        refine .inl ⟨⟨rfl, .inr fun n hn => ?_⟩, _, rfl, .inr ⟨e.message, rfl⟩⟩
        rw [hread] at hn
        cases hn
      | ok n =>
        refine .inr ⟨?_, _, rfl⟩
        rintro ⟨_, hlike' | hnone⟩
        · exact hlike hlike'
        · exact hnone n hread
  · obtain ⟨stored, hstored⟩ := value_of_ne_year hyear car
    refine .inr ⟨fun h => hyear h.1, ?_⟩
    simp only [holds, ordering, hstored, Value.text?]
    split <;> exact ⟨_, rfl⟩

/-! ## Groups -/

theorem not_stuck_nil (car : Car) : ¬ Stuck car [] := by
  rintro ⟨front, p, back, h, -⟩
  exact absurd h.symm (List.append_ne_nil_of_right_ne_nil _ (List.cons_ne_nil _ _))

/-- A condition behind the first one is looked at only when that one holds. -/
theorem stuck_cons (car : Car) (p : Predicate) (rest : List Predicate) :
    Stuck car (p :: rest) ↔ IllTyped p ∨ holds p car = .ok true ∧ Stuck car rest := by
  constructor
  · rintro ⟨front, q, back, hgroup, hfront, hq⟩
    cases front with
    | nil =>
      obtain ⟨rfl, -⟩ := List.cons.inj hgroup
      exact .inl hq
    | cons first front =>
      obtain ⟨rfl, rfl⟩ := List.cons.inj hgroup
      rw [List.forall_mem_cons] at hfront
      exact .inr ⟨hfront.1, front, q, back, rfl, hfront.2, hq⟩
  · rintro (hp | ⟨hp, front, q, back, rfl, hfront, hq⟩)
    · exact ⟨[], p, rest, rfl, nofun, hp⟩
    · exact ⟨p :: front, q, back, rfl, List.forall_mem_cons.2 ⟨hp, hfront⟩, hq⟩

/-- A condition that is looked at fails, or it lets the rest of its group go on. -/
theorem judged_error_iff {car : Car} {p : Predicate} {next : Bool → Except Error Bool}
    {group : List Predicate} {others : Prop}
    (hnext : ∀ b, (∃ e, next b = .error e) ↔ (b = true ∧ Stuck car group) ∨ others) :
    (∃ e, (match holds p car with
      | .ok b => next b
      | .error e => .error e) = .error e) ↔ Stuck car (p :: group) ∨ others := by
  rw [stuck_cons]
  rcases holds_cases p car with ⟨hill, e, he, -⟩ | ⟨hwell, b, hb⟩
  · rw [he]
    exact iff_of_true ⟨e, rfl⟩ (.inl (.inl hill))
  · rw [hb]
    simp only [hnext, hwell, false_or, Except.ok.injEq]

/-- Going on through a filter fails in the group that it is in, as long as that holds, or in one that
follows. -/
theorem scan_error_iff (car : Car) (found group : Bool) (filter : Filter) :
    (∃ e, scan car found group filter = .error e) ↔
      (group = true ∧ Stuck car (splitGroups (joined filter)).1) ∨
        ∃ g ∈ (splitGroups (joined filter)).2, Stuck car g := by
  induction filter generalizing found group with
  | nil =>
    simp only [scan, joined, List.map_nil, splitGroups, reduceCtorEq, exists_false,
      List.not_mem_nil, false_and, or_false, false_iff, not_and]
    exact fun _ => not_stuck_nil car
  | cons p rest ih =>
    rw [joined, List.map_cons, ← joined, scan]
    cases p.connective with
    | and =>
      cases group with
      | false =>
        have hrest := ih found false
        simp only [Bool.false_eq_true, false_and, false_or] at hrest ⊢
        exact hrest
      | true =>
        simp only [splitGroups, if_true, true_and]
        exact judged_error_iff (ih found)
    | or =>
      -- The condition begins a group, which is looked at whatever became of the one before.
      simp only [splitGroups, if_true, not_stuck_nil, and_false, false_or, List.exists_mem_cons_iff]
      exact judged_error_iff (ih (found || group))

theorem passes_error_iff (filter : Filter) (car : Car) :
    (∃ e, passes filter car = .error e) ↔ ∃ g ∈ groupsOf filter, Stuck car g := by
  cases filter with
  | nil => simp only [passes, groupsOf, joined, List.map_nil, groups, reduceCtorEq, exists_false,
      List.not_mem_nil, false_and]
  | cons first rest =>
    rw [groupsOf, joined, List.map_cons, ← joined, groups, List.exists_mem_cons_iff, passes]
    exact judged_error_iff (scan_error_iff car false · rest)

/-- A record that is judged passes when all conditions of some group are found true. -/
theorem passes_iff {filter : Filter} {car : Car} {b : Bool} (h : passes filter car = .ok b) :
    b = true ↔ filter = [] ∨ ∃ group ∈ groupsOf filter, ∀ p ∈ group, holds p car = .ok true := by
  classical
  by_cases hnil : filter = []
  · subst hnil
    cases h
    exact iff_of_true rfl (.inl rfl)
  · have hjoined : joined filter ≠ [] := by
      intro hempty
      exact hnil (List.map_eq_nil_iff.1 hempty)
    have hconnective (x : Connective × Predicate) (hx : x ∈ joined filter) :
        x.2.connective = x.1 := by
      obtain ⟨p, -, rfl⟩ := List.mem_map.1 hx
      rfl
    rw [← map_snd_joined filter] at h
    have hb := passes_eq_groups car Prod.snd (fun p => decide (holds p car = .ok true))
      (joined filter) hjoined b hconnective (fun x _ t ht => by simp [ht]) h
    rw [hb, or_iff_right hnil]
    simp only [groupsOf, List.any_eq_true, List.all_eq_true, decide_eq_true_iff]

/-- A selection fails when the filter gets stuck on one of the records. -/
theorem select_error_iff (filter : Filter) (cars : List Car) :
    (∃ e, select filter cars = .error e) ↔ ∃ car ∈ cars, ∃ g ∈ groupsOf filter, Stuck car g := by
  induction cars with
  | nil => simp only [select, reduceCtorEq, exists_false, List.not_mem_nil, false_and]
  | cons car rest ih =>
    rw [List.exists_mem_cons_iff, ← passes_error_iff, ← ih, select]
    cases passes filter car with
    | error e => exact iff_of_true ⟨e, rfl⟩ (.inl ⟨e, rfl⟩)
    | ok b =>
      cases select filter rest with
      | error e => exact iff_of_true ⟨e, rfl⟩ (.inr ⟨e, rfl⟩)
      | ok found => simp [Except.map]

/-! ## Errors -/

theorem raises_holds (p : Predicate) (car : Car) : Raises Unjudged (holds p car) := by
  rcases holds_cases p car with ⟨-, e, he, hunjudged⟩ | ⟨-, b, hb⟩
  · rw [he]
    exact Raises.throw hunjudged
  · rw [hb]
    exact Raises.pure b

/-- A scan fails with what its conditions say, and with nothing else. -/
theorem raises_scan (car : Car) (found group : Bool) (filter : Filter) :
    Raises Unjudged (scan car found group filter) := by
  induction filter generalizing found group with
  | nil => exact Raises.pure _
  | cons p rest ih =>
    have hgroup (found group : Bool) : Raises Unjudged (if group then
          match holds p car with
          | .ok b => scan car found b rest
          | .error e => .error e
        else scan car found false rest) := by
      split
      · split
        · exact ih _ _
        · next e he => exact Raises.throw (raises_holds p car e he)
      · exact ih _ _
    rw [scan]
    cases p.connective with
    | and => exact hgroup found group
    | or => exact hgroup (found || group) true

theorem raises_passes (filter : Filter) (car : Car) : Raises Unjudged (passes filter car) := by
  cases filter with
  | nil => exact Raises.pure _
  | cons first rest =>
    rw [passes]
    split
    · exact raises_scan _ _ _ _
    · next e he => exact Raises.throw (raises_holds first car e he)

theorem raises_select (filter : Filter) (cars : List Car) :
    Raises Unjudged (select filter cars) := by
  induction cars with
  | nil => exact Raises.pure _
  | cons car rest ih =>
    rw [select]
    split
    · next e he => exact Raises.throw (raises_passes filter car e he)
    · exact ih.map _

end VehicleRecords.Store
