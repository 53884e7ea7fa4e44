import Mathlib.Data.List.Basic
import VehicleRecords.Http.Message

namespace VehicleRecords.Error

/-- Puts contexts in front of an error, the last one outermost. -/
def contexts (e : Error) (cs : List Context) : Error := cs.foldl context e

/-- The error has nothing behind it, so that nothing is replaced when it is put in front of another. -/
def IsCauseless (e : Error) : Prop := e.behind = []

def IsUnclassified (e : Error) : Prop :=
  (∃ text, e = adhoc text) ∨ ∃ inner, e = Cause.foreign inner

variable {c : Error} {cs : List Context}

/-! ## One context -/

theorem chain_of_causeless (hc : c.IsCauseless) : c.chain = [c.outermost] := by
  rw [chain, hc]

theorem is_of_causeless (hc : c.IsCauseless) (kind : ErrorKind) :
    c.is kind = (c.outermost.kind? == some kind) := by
  rw [is, chain_of_causeless hc, List.any_cons, List.any_nil, Bool.or_false]

theorem message_of_causeless (hc : c.IsCauseless) : c.message = c.outermost.message := by
  rw [message, chain_of_causeless hc, List.map_singleton, String.intercalate_singleton]

theorem context_of_own (e : Error) {c : Context} (hown : c.shared = false) :
    e.context c = e.context c.error := by
  rw [context, hown]
  rfl

theorem is_context_causeless (e : Error) (hc : c.IsCauseless) (kind : ErrorKind) :
    (e.context c).is kind = (c.is kind || e.is kind) := by
  rw [is_of_causeless hc, is, chain_context, List.any_cons]
  rfl

theorem causeless_of_unclassified (hc : c.IsUnclassified) : c.IsCauseless := by
  rcases hc with ⟨text, rfl⟩ | ⟨inner, rfl⟩
  · rfl
  · rfl

theorem is_of_unclassified (hc : c.IsUnclassified) (kind : ErrorKind) : c.is kind = false := by
  rw [is_of_causeless (causeless_of_unclassified hc)]
  rcases hc with ⟨text, rfl⟩ | ⟨inner, rfl⟩
  · rfl
  · rfl

/-! ## Any number of contexts -/

theorem contexts_cons (e : Error) (c : Context) (cs : List Context) :
    e.contexts (c :: cs) = (e.context c).contexts cs := rfl

/-- The latest context stands in front. -/
theorem chain_contexts (e : Error) (hown : ∀ c ∈ cs, c.shared = false) :
    (e.contexts cs).chain = (cs.map (·.error.outermost)).reverse ++ e.chain := by
  induction cs generalizing e with
  | nil => rfl
  | cons c cs ih =>
    rw [List.forall_mem_cons] at hown
    rw [contexts_cons, context_of_own e hown.1, ih _ hown.2, chain_context, List.map_cons,
      List.reverse_cons, List.append_assoc, List.singleton_append]

/-- By induction on the contexts: each one adds its own kind and hides none. -/
theorem is_contexts (e : Error) (hcs : ∀ c ∈ cs, c.error.IsCauseless)
    (hown : ∀ c ∈ cs, c.shared = false) (kind : ErrorKind) :
    (e.contexts cs).is kind = true ↔ e.is kind = true ∨ ∃ c ∈ cs, c.error.is kind = true := by
  induction cs generalizing e with
  | nil => simp only [contexts, List.foldl_nil, List.not_mem_nil, false_and, exists_false, or_false]
  | cons c cs ih =>
    rw [List.forall_mem_cons] at hcs hown
    rw [contexts_cons, context_of_own e hown.1, ih _ hcs.2 hown.2,
      is_context_causeless e hcs.1, Bool.or_eq_true, List.exists_mem_cons_iff,
      or_comm (a := c.error.is kind = true), or_assoc]

theorem isFilterError_iff (e : Error) : e.isFilterError = true ↔
    ∃ kind ∈ [ErrorKind.emptyValue, .invalidOperator, .unknownColumn], e.is kind = true := by
  simp only [isFilterError, Bool.or_eq_true, List.exists_mem_cons_iff, List.not_mem_nil, false_and,
    exists_false, or_false, or_assoc]

theorem message_contexts (e : Error) (hcs : ∀ c ∈ cs, c.error.IsCauseless)
    (hown : ∀ c ∈ cs, c.shared = false) :
    (e.contexts cs).message = ": ".intercalate (((cs.map (·.error)).reverse ++ [e]).map message) := by
  have hmap : (cs.map (·.error.outermost)).reverse.map Cause.message =
      (cs.map (·.error)).reverse.map message := by
    rw [← List.map_reverse, ← List.map_reverse, List.map_map, List.map_map]
    exact List.map_congr_left fun c hc => (message_of_causeless (hcs c (List.mem_reverse.1 hc))).symm
  rw [message, chain_contexts e hown, List.map_append, hmap, List.map_append]
  by_cases hnil : cs = []
  · subst hnil
    exact String.intercalate_singleton.symm
  · have hfront : (cs.map (·.error)).reverse.map message ≠ [] := by simpa using hnil
    rw [String.intercalate_append_of_ne_nil hfront (by simp [chain]),
      String.intercalate_append_of_ne_nil hfront (by simp), List.map_singleton,
      String.intercalate_singleton]
    rfl

/-- Whatever was in front of a shared context is given up. -/
theorem contexts_of_shared (e : Error) {before after : List Context} {c : Context}
    (hc : c.shared = true) : e.contexts (before ++ c :: after) = c.error.contexts after := by
  rw [contexts, List.foldl_append, List.foldl_cons, context, hc]
  rfl

/-- The status and the code depend on what is asked of the kinds only. -/
theorem statusOf_congr {e e' : Error} (h : ∀ kind, e'.is kind = e.is kind) :
    Http.statusOf e' = Http.statusOf e := by
  have his : e'.is = e.is := funext h
  rw [Http.statusOf, Http.statusOf, isFilterError, isFilterError, his]

/-- An error with contexts in front of it is of its kinds and theirs, its text is theirs and its own
joined, the latest in front, and contexts of no kind leave its status and its code as they are. All
this holds of contexts that nobody else holds: of the error and the contexts behind a shared one
nothing is left, as if the contexts began with it. -/
theorem contexts_keep_error (e : Error) (cs : List Context)
    (hcs : ∀ c ∈ cs, c.error.IsCauseless) :
    ((∀ c ∈ cs, c.shared = false) →
      (∀ kind, (e.contexts cs).is kind = true ↔
        e.is kind = true ∨ ∃ c ∈ cs, c.error.is kind = true) ∧
      ((e.contexts cs).isFilterError = true ↔
        e.isFilterError = true ∨ ∃ c ∈ cs, c.error.isFilterError = true) ∧
      (e.contexts cs).message = ": ".intercalate (((cs.map (·.error)).reverse ++ [e]).map message) ∧
      ((∀ c ∈ cs, c.error.IsUnclassified) → Http.statusOf (e.contexts cs) = Http.statusOf e)) ∧
    ∀ before c after, cs = before ++ c :: after → c.shared = true →
      e.contexts cs = c.error.contexts after := by
  refine ⟨fun hown => ⟨is_contexts e hcs hown, ?_, message_contexts e hcs hown, ?_⟩, ?_⟩
  · simp only [isFilterError_iff, is_contexts e hcs hown]
    constructor
    · rintro ⟨kind, hkind, he | ⟨c, hc, his⟩⟩
      · exact .inl ⟨kind, hkind, he⟩
      · exact .inr ⟨c, hc, kind, hkind, his⟩
    · rintro (⟨kind, hkind, he⟩ | ⟨c, hc, kind, hkind, his⟩)
      · exact ⟨kind, hkind, .inl he⟩
      · exact ⟨kind, hkind, .inr ⟨c, hc, his⟩⟩
  · intro hplain
    refine statusOf_congr fun kind => ?_
    have hnone : ¬ ∃ c ∈ cs, c.error.is kind = true := by
      rintro ⟨c, hc, hkind⟩
      rw [is_of_unclassified (hplain c hc)] at hkind
      cases hkind
    rw [Bool.eq_iff_iff, is_contexts e hcs hown]
    exact or_iff_left hnone
  · rintro before c after rfl hc
    exact contexts_of_shared e hc

/-- A look-up that failed because of a missing record, wrapped twice, and wrapped once more in a
context that is held elsewhere too. -/
theorem contexts_of_failed_lookup :
    let e := registryLookup "A1" (recordNotFound "car_id=7")
    let cs : List Context := [adhoc "adding cars", (Cause.foreign ⟨"broken pipe", []⟩ : Error)]
    (∀ c ∈ cs, c.error.IsCauseless) ∧ (∀ c ∈ cs, c.shared = false) ∧
    (e.contexts cs).is .recordNotFound = true ∧
    (e.contexts cs).message =
      "broken pipe: adding cars: registry lookup failed for `A1`: record not found: car_id=7" ∧
    Http.statusOf (e.contexts cs) = (.badRequest, "registry_lookup_failed") ∧
    (∀ c ∈ cs ++ [⟨adhoc "request", true⟩], c.error.IsCauseless) ∧
    e.contexts (cs ++ [⟨adhoc "request", true⟩]) = adhoc "request" := by
  intro e cs
  have hplain : ∀ c ∈ cs, c.error.IsUnclassified := by
    rw [List.forall_mem_cons, List.forall_mem_singleton]
    exact ⟨.inl ⟨_, rfl⟩, .inr ⟨_, rfl⟩⟩
  have hcs : ∀ c ∈ cs, c.error.IsCauseless := fun c hc => causeless_of_unclassified (hplain c hc)
  have hown : ∀ c ∈ cs, c.shared = false := by decide
  have hmore : ∀ c ∈ cs ++ [⟨adhoc "request", true⟩], c.error.IsCauseless := by
    rw [List.forall_mem_append, List.forall_mem_singleton]
    exact ⟨hcs, rfl⟩
  obtain ⟨his, -, hmessage, hstatus⟩ := (contexts_keep_error e cs hcs).1 hown
  refine ⟨hcs, hown, (his .recordNotFound).2 (.inl rfl), hmessage.trans rfl,
    (hstatus hplain).trans rfl, hmore, ?_⟩
  exact (contexts_keep_error e _ hmore).2 cs _ [] rfl rfl

/-- A missing record behind a context that is held elsewhere too is not a missing record any more. -/
theorem shared_context_hides_error :
    (⟨adhoc "get_car", true⟩ : Context).error.IsCauseless ∧
    (recordNotFound "car_id=1").is .recordNotFound = true ∧
    ((recordNotFound "car_id=1").contexts [⟨adhoc "get_car", true⟩]).is .recordNotFound = false ∧
    ((recordNotFound "car_id=1").contexts [⟨adhoc "get_car", true⟩]).message = "get_car" ∧
    ": ".intercalate ([adhoc "get_car", recordNotFound "car_id=1"].map message) =
      "get_car: record not found: car_id=1" ∧
    Http.statusOf (recordNotFound "car_id=1") = (.notFound, "not_found") ∧
    Http.statusOf ((recordNotFound "car_id=1").contexts [⟨adhoc "get_car", true⟩]) =
      (.internalServerError, "internal") :=
  ⟨rfl, rfl, rfl, rfl, rfl, rfl, rfl⟩

end VehicleRecords.Error
