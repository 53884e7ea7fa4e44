import VehicleRecords.Http.Handler
import VehicleRecords.Proofs.Service.Run

namespace VehicleRecords.Http

open Store LoggedMemory

variable {α : Type}

/-- The records change at most where `writes` holds and the answer is a success. -/
def Cautious (writes : Prop) (handler : StateM LoggedMemory Response) : Prop :=
  ∀ m, (handler m).2.memory = m.memory ∨
    (writes ∧ (handler m).1.status.isSuccess = true)

theorem cautious_pure (writes : Prop) (response : Response) :
    Cautious writes (pure response) := fun _ => .inl rfl

theorem answer_apply {σ : Type} (respond : α → Response) (run : StoreM σ α) (m : σ) :
    answer respond run m =
      match run m with
      | (.ok a, t) => (respond a, t)
      | (.error e, t) => (.ofError e, t) := by
  simp only [answer, bind, StateT.bind, ExceptT.run]
  cases run m with
  | mk result t => cases result <;> rfl

/-- The store writes nothing when it fails, and an answer to a failure is no success. -/
theorem cautious_answer {writes : Prop} {op : Operation} {read : Answer → Except Error α}
    {run : StoreM LoggedMemory α} {respond : α → Response} (h : CarriesOut op read run)
    (hop : (∀ n : Memory, (n.run op).2 = n) ∨
      (writes ∧ ∀ a, (respond a).status.isSuccess = true)) :
    Cautious writes (answer respond run) := by
  intro m
  rw [answer_apply]
  rcases h m with ⟨e, t, hrun, ht⟩ | ⟨answer, a, t, hrun, hanswer, _⟩
  · rw [hrun]
    exact .inl ht
  · -- A write that went through has to be answered as a success.
    rw [hrun]
    rcases hop with hreads | ⟨hwrites, hsuccess⟩
    · left
      have hmemory := hreads m.memory
      rw [hanswer] at hmemory
      exact hmemory
    · exact .inr ⟨hwrites, hsuccess a⟩

theorem cautious_withId {writes : Prop} (id : String) {run : Int64 → StateM LoggedMemory Response}
    (h : ∀ n, Cautious writes (run n)) : Cautious writes (withId id run) := by
  rw [withId]
  split
  · exact h _
  · exact cautious_pure _ _

theorem cautious_withBody {writes : Prop} (read : Json.Reader α) (r : Request)
    {run : α → StateM LoggedMemory Response} (h : ∀ a, Cautious writes (run a)) :
    Cautious writes (withBody read r run) := by
  rw [withBody]
  split
  · exact cautious_pure _ _
  · split
    · exact h _
    · exact cautious_pure _ _

variable (s : Service LoggedMemory) (hs : s.backend.exec = exec)

include hs

theorem cautious_addCars (regNums : List String) {writes : Prop} (hw : writes) :
    Cautious writes (answer (fun _ => { status := .created }) (s.addCars regNums)) := by
  intro m
  rcases s.addCars_cases hs regNums m with ⟨e, hrun⟩ | ⟨cars, _, hcars⟩
  · rw [answer_apply, hrun]
    exact .inl rfl
  · exact cautious_answer hcars (.inr ⟨hw, fun _ => rfl⟩) m

theorem cautious_editCar (id : Int64) (patch : CarPatch) {writes : Prop} (hw : writes) :
    Cautious writes (answer done (s.editCar id patch)) := by
  rcases s.editCar_cases hs id patch with ⟨e, hrun⟩ | hedit
  · rw [hrun]
    exact cautious_pure writes (.ofError e)
  · exact cautious_answer hedit (.inr ⟨hw, fun _ => rfl⟩)

theorem cautious_listCars (query : Option String) (writes : Prop) :
    Cautious writes (listCars s query) := by
  rw [listCars]
  split
  · exact cautious_pure _ _
  · split
    · exact cautious_pure _ _
    · exact cautious_answer (s.listCars_carriesOut hs _ _) (.inl fun _ => rfl)

/-- One case for each endpoint. -/
theorem cautious_handleRoute (r : Request) (route : Route) :
    Cautious (route.method ≠ "GET") (handleRoute s r route) := by
  -- The id in the path and the body are read before anything is written.
  cases route with
  | addCars =>
    refine cautious_withBody _ r fun regNums => ?_
    exact cautious_addCars s hs regNums (by decide)
  | getCar id =>
    refine cautious_withId id fun n => ?_
    exact cautious_answer (s.getCar_carriesOut hs n) (.inl fun m => m.run_getById n)
  | listCars => exact cautious_listCars s hs r.target.query _
  | editCar id =>
    refine cautious_withId id fun n => cautious_withBody _ r fun patch => ?_
    exact cautious_editCar s hs n patch (show "PATCH" ≠ "GET" by decide)
  | deleteCar id =>
    refine cautious_withId id fun n => ?_
    have hwrites : (Route.deleteCar id).method ≠ "GET" := show "DELETE" ≠ "GET" by decide
    exact cautious_answer (s.deleteCar_carriesOut hs n) (.inr ⟨hwrites, fun _ => rfl⟩)

theorem cautious_handle (r : Request) : Cautious (r.method ≠ "GET") (handle s r) := by
  rw [handle]
  cases hroute : Route.resolve r.method r.target.path with
  | error status => exact cautious_pure _ _
  | ok route =>
    -- An endpoint is reached by its own method only.
    have hmethod : route.method = r.method := by
      rw [Route.resolve] at hroute
      split at hroute
      · cases hroute
      · split at hroute
        · next heq =>
          cases hroute
          exact heq
        · cases hroute
    exact hmethod ▸ cautious_handleRoute s hs r route

/-- A request that is not answered with success, or whose method is `GET`, leaves the records and the
last id as they were, whatever the registry, the checks, the policy and the grammar of filters. -/
theorem handle_keeps_records (r : Request) (m : LoggedMemory)
    (h : (handle s r m).1.status.isSuccess = false ∨ r.method = "GET") :
    (handle s r m).2.memory = m.memory := by
  rcases cautious_handle s hs r m with hm | ⟨hmethod, hsuccess⟩
  · exact hm
  · rcases h with hfailure | hget
    · rw [hsuccess] at hfailure
      cases hfailure
    · exact absurd hget hmethod

omit hs

/-- The registry knows the first number of the list and fails at the second one. -/
theorem records_after_failed_lookup :
    ∃ (s : Service LoggedMemory) (r : Request), s.backend.exec = exec ∧
      r.body = some (bytesOf "\x7b\"regNums\":[\"A1\",\"B2\"]\x7d") ∧
      s.lookup "A1" = .ok { regNum := "A1" } ∧
      (handle s r ⟨⟨[{ id := 4 }], 4⟩, []⟩).1.status.isSuccess = false ∧
      (handle s r ⟨⟨[{ id := 4 }], 4⟩, []⟩).2.memory = ⟨[{ id := 4 }], 4⟩ := by
  refine ⟨{ Service.permissive LoggedMemory.backend with
    lookup := fun regNum => if regNum = "A1" then .ok { regNum } else .error (.adhoc "down") },
    ⟨"POST", ⟨"/api/cars/add", none⟩, _⟩, rfl, rfl, rfl, by decide, ?_⟩
  exact handle_keeps_records _ rfl _ _ (.inl (by decide))

end VehicleRecords.Http
