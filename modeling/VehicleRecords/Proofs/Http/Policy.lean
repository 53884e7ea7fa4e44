import VehicleRecords.Http.Handler
import VehicleRecords.Proofs.Filter.Policy
import VehicleRecords.Proofs.Filter.Token
import VehicleRecords.Proofs.Service.Refusal

namespace VehicleRecords

variable {σ : Type}

def Service.under (s : Service σ) (policy : FilterPolicy) : Service σ := { s with policy }

namespace Http

theorem ofError_of_isFilterError {e : Error} (h : e.isFilterError = true) :
    Response.ofError e = .failure .badRequest "invalid_filter" e.message := by
  rw [Response.ofError, statusOf, if_pos h]

/-- A listing whose filter cannot be built is answered without the store. -/
theorem handle_of_buildFilter_error {s : Service σ} {r : Request} {listing : Listing} {e : Error}
    (hroute : Route.resolve r.method r.target.path = .ok .listCars)
    (hparse : Listing.parse r.target.query = .ok listing)
    (hbuild : s.buildFilter listing.fields = .error e) (state : σ) :
    handle s r state = (.ofError e, state) := by
  rw [handle, hroute]
  dsimp only
  rw [handleRoute, listCars, hparse]
  dsimp only
  rw [hbuild]
  rfl

/-- Leaving unreadable fields out always succeeds, with the conditions of the readable fields in order.
Rejecting them succeeds exactly when every field can be read, then with the same filter, and otherwise
fails with the error of the first field that cannot; this is a fault of the filter, and a request for
the listing is answered with it: whatever the store, its state stays and it is given no operation. So
leaving fields out is rejecting in the list without them. Either way a filter is made by adding field
after field. -/
theorem policies_on_fields (s : Service σ) (hs : s.backend.grammar = .tokens)
    (fields : List (Column × String)) :
    (s.under .skip).buildFilter fields =
      .ok (fields.filterMap fun field => (Predicate.parse field.1 field.2).toOption) ∧
    ((∃ filter, (s.under .reject).buildFilter fields = .ok filter) ↔
      ∀ field ∈ fields, ∃ p, Predicate.parse field.1 field.2 = .ok p) ∧
    (∀ filter, (s.under .reject).buildFilter fields = .ok filter →
      (s.under .skip).buildFilter fields = .ok filter) ∧
    (∀ e, (s.under .reject).buildFilter fields = .error e ↔
      ∃ field, FailsFirst (fun field => Predicate.parse field.1 field.2) fields field e) ∧
    (∀ e, (s.under .reject).buildFilter fields = .error e → e.isFilterError = true ∧
      ∀ r listing, Route.resolve r.method r.target.path = .ok .listCars →
        Listing.parse r.target.query = .ok listing → listing.fields = fields → ∀ state given,
          handle (s.under .reject) r state =
            (.failure .badRequest "invalid_filter" e.message, state) ∧
          handle ((s.under .reject).withStore s.backend.recorded) r (state, given) =
            (.failure .badRequest "invalid_filter" e.message, (state, given))) ∧
    (s.under .skip).buildFilter fields = (s.under .reject).buildFilter
      (fields.filter fun field => (Predicate.parse field.1 field.2).isOk) ∧
    ∀ policy, (s.under policy).buildFilter fields =
      fields.foldlM (Filter.extend .tokens policy) [] := by
  have hbuild (policy : FilterPolicy) (fields : List (Column × String)) :
      (s.under policy).buildFilter fields = Filter.build .tokens policy fields := by
    rw [Service.buildFilter, Service.under, hs]
  simp only [hbuild]
  have hskip := Filter.build_skip .tokens fields
  have hreject := Filter.build_reject .tokens fields
  have hfails (e : Error) : Filter.build .tokens .reject fields = .error e ↔
      ∃ field, FailsFirst Grammar.tokens.read fields field e := by
    rw [hreject, mapM_eq_error_iff]
  refine ⟨hskip, ?_, fun filter h => ?_, hfails, fun e h => ?_, ?_, fun policy => ?_⟩
  · rw [hreject]
    exact mapM_eq_ok_iff Grammar.tokens.read fields
  · have hread := (mapM_eq_ok_iff Grammar.tokens.read fields).1 ⟨filter, hreject ▸ h⟩
    rw [hskip, ← Filter.build_readable, Filter.readable_eq_self .tokens hread, h]
  · obtain ⟨field, _, _, _, _, hfield⟩ := (hfails e).1 h
    have he := Predicate.isFilterError_of_parse field.1 hfield
    refine ⟨he, fun r listing hroute hparse hlisting state given => ?_⟩
    have hlisted : (s.under .reject).buildFilter listing.fields = .error e := by
      rw [hbuild, hlisting, h]
    -- The recorded store reads its filters as the store does.
    have hrecorded : ((s.under .reject).withStore s.backend.recorded).buildFilter listing.fields =
        .error e := hlisted
    rw [handle_of_buildFilter_error hroute hparse hlisted,
      handle_of_buildFilter_error hroute hparse hrecorded, ofError_of_isFilterError he]
    exact ⟨rfl, rfl⟩
  · rw [hskip]
    exact (Filter.build_readable .tokens fields).symm
  · rw [Filter.foldlM_extend]
    cases Filter.build .tokens policy fields <;> rfl

open Store

/-- The first field has no operator, and the third one ends in its only colon. -/
theorem policies_on_unreadable_fields :
    let s := Service.permissive LoggedMemory.backend
    let fields : List (Column × String) :=
      [(.regNum, "bogus:A001AA77"), (.mark, "Lada"), (.year, "or:"), (.year, "or:gt:2000")]
    s.backend.grammar = .tokens ∧
    (s.under .skip).buildFilter fields =
      .ok [{ column := .mark, value := "Lada" }, ⟨.or, .year, .gt, "2000"⟩] ∧
    (s.under .reject).buildFilter fields = .error (.invalidOperator "bogus") ∧
    (s.under .reject).buildFilter [(.mark, "Lada"), (.year, "or:gt:2000")] =
      (s.under .skip).buildFilter fields ∧
    ∀ m, handle ((s.under .reject).withStore s.backend.recorded) ⟨"GET", Target.parse
        "/api/cars?reg_num=bogus:A001AA77&mark=Lada&year=or:&year=or:gt:2000", none⟩ (m, []) =
      (.failure .badRequest "invalid_filter" (Error.invalidOperator "bogus").message, (m, [])) := by
  intro s fields
  obtain ⟨hskip, _, _, _, hanswer, hsame, _⟩ := policies_on_fields s rfl fields
  have hreject : (s.under .reject).buildFilter fields = .error (.invalidOperator "bogus") := rfl
  exact ⟨rfl, hskip, hreject, hsame.symm,
    fun m => ((hanswer _ hreject).2 _ ⟨fields, {}⟩ rfl rfl rfl m []).2⟩

end Http

end VehicleRecords
