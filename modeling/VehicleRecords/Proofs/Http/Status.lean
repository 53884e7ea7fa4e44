import VehicleRecords.Proofs.Filter.Policy
import VehicleRecords.Proofs.Filter.Token
import VehicleRecords.Proofs.Http.Failure
import VehicleRecords.Proofs.Service.Addition
import VehicleRecords.Proofs.Service.Missing
import VehicleRecords.Proofs.Store.Disjoint
import VehicleRecords.Proofs.Store.Listing

namespace VehicleRecords.Http

open Store LoggedMemory
open StoreM (Ensures)

variable {α : Type}

/-! ## Statuses of errors -/

def Blames (e : Error) : Prop := (Response.ofError e).status ≠ .internalServerError

theorem status_ofError (e : Error) : (Response.ofError e).status = (statusOf e).1 := rfl

/-- A cause of one of these kinds anywhere in its chain makes an error the client's. -/
theorem blames_iff (e : Error) :
    Blames e ↔ e.isFilterError = true ∨ e.is .validation = true ∨ e.is .noFieldsToUpdate = true ∨
      e.is .registryLookup = true ∨ e.is .recordNotFound = true ∨ e.is .alreadyExists = true := by
  rw [Blames, status_ofError, statusOf]
  split
  · simp [*]
  · split
    · simp [*]
    · split
      · simp [*]
      · split
        · simp [*]
        · split
          · simp [*]
          · split
            · simp [*]
            · simp [*]

theorem status_of_unjudged {e : Error} (h : Unjudged e) :
    (Response.ofError e).status = .internalServerError := by
  rcases h with rfl | ⟨text, rfl⟩
  · rfl
  · rfl

/-! ## Calls of the service -/

theorem raises_validate (v : Validator) (currentYear : Nat) (patch : CarPatch) :
    Raises Blames (v.validate currentYear patch) := by
  intro e he
  obtain ⟨c, reason, -, rfl⟩ := (Validator.validate_eq_error_iff v currentYear patch e).1 he
  rw [blames_iff]
  exact .inr (.inl rfl)

/-- Whatever lies behind it, the failed look-up stands in front. -/
theorem raises_resolve (lookup : String → Except Error Car) (regNums : List String) :
    Raises Blames (Service.resolve lookup regNums) := by
  intro e he
  obtain ⟨regNum, cause, -, rfl⟩ := (Service.resolve_eq_error_iff regNums e).1 he
  rw [blames_iff, Error.registryLookup, Error.is_context cause _ .registryLookup]
  exact .inr (.inr (.inr (.inl rfl)))

/-- A filter that cannot be built has a fault of the client in it, under either policy. -/
theorem raises_build (g : Grammar) (policy : FilterPolicy) (fields : List (Column × String)) :
    Raises Blames (Filter.build g policy fields) := by
  have hread (field : Column × String) : Raises Blames (g.read field) := by
    cases g with
    | bareValues => exact Raises.pure _
    | tokens =>
      intro e he
      rw [blames_iff]
      exact .inl (Predicate.isFilterError_of_parse field.1 he)
  cases policy with
  | skip =>
    rw [Filter.build_skip]
    exact Raises.pure _
  | reject =>
    rw [Filter.build_reject]
    exact Raises.mapM hread fields

/-- A statement that is not refused fails with the store's own errors only. -/
theorem ensures_read {op : Operation} (h : (Sql.Statement.run op).verify = .ok ())
    {read : Answer → Except Error α} {Q : Error → Prop}
    (hQ : ∀ n : Memory, Raises Q ((n.run op).1.bind read)) :
    Ensures (exec op >>= fun answer => (liftM (read answer) : StoreM LoggedMemory α))
      (fun _ => True) Q := by
  intro m
  obtain ⟨compiled, hrun⟩ := exec_read op h read m
  rw [hrun]
  exact ⟨fun _ _ => trivial, hQ m.memory⟩

theorem blames_noSuchCar (id : Int64) : Blames (.noSuchCar id) := by
  rw [blames_iff]
  exact .inr (.inr (.inr (.inr (.inl rfl))))

section Calls

variable (s : Service LoggedMemory) (hs : s.backend.exec = exec)

include hs

theorem ensures_addCars (regNums : List String) :
    Ensures (s.addCars regNums) (fun _ => True) Blames := by
  rw [Service.addCars]
  split
  · exact Ensures.throw ((blames_iff _).2 (.inr (.inl rfl)))
  · next hne =>
    split
    · next e he => exact Ensures.throw (raises_resolve s.lookup regNums e he)
    · next cars hcars =>
      have hsome : cars ≠ [] :=
        Service.ne_nil_of_resolve (fun hnil => hne (List.isEmpty_iff.2 hnil)) hcars
      rw [Backend.addCars, hs]
      refine ensures_read (Sql.verify_insert hsome) fun n => ?_
      exact Raises.pure _

theorem ensures_getCar (id : Int64) : Ensures (s.getCar id) (fun _ => True) Blames := by
  rw [Service.getCar_eq s hs]
  refine ensures_read rfl fun n => ?_
  rw [Memory.run_getById_eq]
  split
  · exact Raises.pure _
  · exact Raises.throw (blames_noSuchCar id)

theorem ensures_deleteCar (id : Int64) : Ensures (s.deleteCar id) (fun _ => True) Blames := by
  rw [Service.deleteCar, Backend.deleteCar, hs]
  refine ensures_read rfl fun n => ?_
  rw [Memory.run]
  split
  · exact Raises.pure _
  · exact Raises.throw (blames_noSuchCar id)

theorem ensures_editCar (id : Int64) (patch : CarPatch) :
    Ensures (s.editCar id patch) (fun _ => True) Blames := by
  rw [Service.editCar]
  split
  · next e he => exact Ensures.throw (raises_validate _ _ _ e he)
  · split
    · exact Ensures.throw ((blames_iff _).2 (.inr (.inr (.inl rfl))))
    · next hne =>
      rw [Backend.updateCar, hs]
      refine ensures_read (by rw [Sql.Statement.verify, if_neg hne]) fun n => ?_
      rw [Memory.run_updateById_eq]
      split
      · exact Raises.throw ((blames_iff _).2 (.inr (.inr (.inr (.inr (.inr rfl))))))
      · dsimp only
        split
        · exact Raises.pure _
        · exact Raises.throw (blames_noSuchCar id)

end Calls

/-! ## Requests -/

/-- Whatever the records are, the answer is no error of the server. -/
def Settled (handler : StateM LoggedMemory Response) : Prop :=
  ∀ m, (handler m).1.status ≠ .internalServerError

theorem settled_pure {response : Response} (h : response.status ≠ .internalServerError) :
    Settled (pure response) := fun _ => h

theorem settled_answer {run : StoreM LoggedMemory α} {respond : α → Response}
    (h : Ensures run (fun _ => True) Blames)
    (hrespond : ∀ a, (respond a).status ≠ .internalServerError) :
    Settled (answer respond run) := by
  intro m
  rw [answer_apply]
  rcases h.cases m with ⟨a, t, hrun, -⟩ | ⟨e, t, hrun, he⟩
  · rw [hrun]
    exact hrespond a
  · rw [hrun]
    exact he

theorem settled_withId (id : String) {run : Int64 → StateM LoggedMemory Response}
    (h : ∀ n, Settled (run n)) : Settled (withId id run) := by
  rw [withId]
  split
  · exact h _
  · exact settled_pure (Status.noConfusion ·)

theorem settled_withBody (read : Json.Reader α) (r : Request)
    {run : α → StateM LoggedMemory Response} (h : ∀ a, Settled (run a)) :
    Settled (withBody read r run) := by
  rw [withBody]
  split
  · exact settled_pure (Status.noConfusion ·)
  · split
    · exact h _
    · exact settled_pure (Status.noConfusion ·)

def GetsStuck (s : Service LoggedMemory) (r : Request) (m : LoggedMemory) : Prop :=
  Route.resolve r.method r.target.path = .ok .listCars ∧
    ∃ listing filter, Listing.parse r.target.query = .ok listing ∧
      s.buildFilter listing.fields = .ok filter ∧
      ∃ car ∈ m.memory.cars, ∃ group ∈ groupsOf filter, Stuck car group

variable (s : Service LoggedMemory) (hs : s.backend.exec = exec)

include hs

theorem settled_handleRoute (r : Request) {route : Route} (hroute : route ≠ .listCars) :
    Settled (handleRoute s r route) := by
  cases route with
  | addCars =>
    exact settled_withBody _ r fun regNums => settled_answer (ensures_addCars s hs regNums) nofun
  | getCar id => exact settled_withId id fun n => settled_answer (ensures_getCar s hs n) nofun
  | listCars => exact absurd rfl hroute
  | editCar id =>
    exact settled_withId id fun n => settled_withBody _ r fun patch =>
      settled_answer (ensures_editCar s hs n patch) nofun
  | deleteCar id => exact settled_withId id fun n => settled_answer (ensures_deleteCar s hs n) nofun

/-- A listing is an error of the server when the filter gets stuck, and only then. -/
theorem listCars_status_iff (query : Option String) (m : LoggedMemory) :
    (listCars s query m).1.status = .internalServerError ↔
      ∃ listing filter, Listing.parse query = .ok listing ∧
        s.buildFilter listing.fields = .ok filter ∧
        ∃ car ∈ m.memory.cars, ∃ group ∈ groupsOf filter, Stuck car group := by
  rw [listCars]
  cases hparse : Listing.parse query with
  | error message =>
    refine iff_of_false (Status.noConfusion ·) ?_
    rintro ⟨_, _, hparsed, _⟩
    cases hparsed
  | ok listing =>
    dsimp only
    cases hbuild : s.buildFilter listing.fields with
    | error e =>
      have hblames : Blames e := raises_build _ _ _ e hbuild
      refine iff_of_false hblames ?_
      rintro ⟨_, _, hparsed, hbuilt, _⟩
      cases hparsed
      rw [hbuild] at hbuilt
      cases hbuilt
    | ok filter =>
      dsimp only
      rw [answer_apply, Service.listCars]
      rcases LoggedMemory.listCars_cases hs filter listing.pagination m with
        ⟨cars, t, hrun, hfree⟩ | ⟨e, t, hrun, hunjudged, hstuck⟩
      · rw [hrun]
        refine iff_of_false (Status.noConfusion ·) ?_
        rintro ⟨_, _, hparsed, hbuilt, hstuck⟩
        cases hparsed
        rw [hbuild] at hbuilt
        cases hbuilt
        exact hfree hstuck
      · rw [hrun]
        exact iff_of_true (status_of_unjudged hunjudged) ⟨listing, filter, rfl, hbuild, hstuck⟩

theorem handle_status_iff (r : Request) (m : LoggedMemory) :
    (handle s r m).1.status = .internalServerError ↔ GetsStuck s r m := by
  rw [handle, GetsStuck]
  cases hresolve : Route.resolve r.method r.target.path with
  | error status =>
    refine iff_of_false ?_ (by rintro ⟨⟨⟩, _⟩)
    rw [Route.resolve] at hresolve
    split at hresolve
    · cases hresolve
      exact (Status.noConfusion ·)
    · split at hresolve
      · cases hresolve
      · cases hresolve
        exact (Status.noConfusion ·)
  | ok route =>
    by_cases hroute : route = .listCars
    · subst hroute
      rw [eq_self, true_and]
      exact listCars_status_iff s hs r.target.query m
    · refine iff_of_false (settled_handleRoute s hs r hroute m) ?_
      rintro ⟨hlist, _⟩
      exact hroute (Except.ok.inj hlist)

/-- A request is answered as a success or as an error of the client, unless it is a listing with a
condition that is ill-typed and that some stored record makes the store look at: the status is then
500. -/
theorem server_error_iff_stuck (r : Request) (m : LoggedMemory) :
    ((handle s r m).1.status.code ∈ [200, 201, 400, 404, 405, 409] ↔ ¬ GetsStuck s r m) ∧
      ((handle s r m).1.status.code = 500 ↔ GetsStuck s r m) := by
  rw [← handle_status_iff s hs]
  cases (handle s r m).1.status <;> decide

omit hs

open Service (permissive oneRecord reached_oneRecord)

/-- A pattern for the year begins a group of its own, so the store looks at it although the stored
record is of another mark. -/
theorem server_error_of_pattern_for_year :
    (permissive LoggedMemory.backend).backend.exec = exec ∧
      GetsStuck (permissive LoggedMemory.backend)
        ⟨"GET", ⟨"/api/cars", some "mark=Lada&year=or:like:2"⟩, some []⟩ oneRecord ∧
      (handle (permissive LoggedMemory.backend)
        ⟨"GET", ⟨"/api/cars", some "mark=Lada&year=or:like:2"⟩, some []⟩ oneRecord).1.status.code =
        500 := by
  have hstuck : GetsStuck (permissive LoggedMemory.backend)
      ⟨"GET", ⟨"/api/cars", some "mark=Lada&year=or:like:2"⟩, some []⟩ oneRecord := by
    refine ⟨by decide, ⟨[(.mark, "Lada"), (.year, "or:like:2")], {}⟩,
      [⟨.and, .mark, .eq, "Lada"⟩, ⟨.or, .year, .like, "2"⟩], by decide, by decide,
      { id := 1, regNum := "A1" }, by decide, [⟨.or, .year, .like, "2"⟩], by decide, ?_⟩
    exact ⟨[], _, [], rfl, nofun, rfl, .inl rfl⟩
  exact ⟨rfl, hstuck, (server_error_iff_stuck _ rfl _ _).2.2 hstuck⟩

/-- A year that is no number is answered as an error of the server as soon as a record is stored. -/
theorem server_error_of_text_for_year :
    Service.Reached LoggedMemory.backend {} 1 oneRecord ∧
      (handle (permissive LoggedMemory.backend)
        ⟨"GET", ⟨"/api/cars", some "year=abc"⟩, some []⟩ oneRecord).1 =
        .failure .internalServerError "internal" "invalid digit found in string" ∧
      Status.internalServerError.code ∉ [200, 201, 400, 404, 405, 409] :=
  ⟨reached_oneRecord, by decide +kernel, by decide⟩

end VehicleRecords.Http
