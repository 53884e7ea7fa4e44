import Mathlib.Logic.Relation
import VehicleRecords.Proofs.Service.Addition
import VehicleRecords.Proofs.Store.Overflow

/-!
Requests to add records that are under way at the same time. A request looks its numbers up one after
another and then saves the records by one insertion; between two steps of it the other requests may
take theirs.
-/
namespace VehicleRecords.Service

open Store LoggedMemory Relation

variable (s : Service LoggedMemory)

inductive Progress where
  /-- The records of the numbers looked up so far, and the numbers that are left. -/
  | lookingUp (found : List Car) (rest : List String)
  | finished (answer : Except Error Nat)
  /-- The insertion made the id counter overflow, or the store was lost in an overflow before. -/
  | stopped

/-- The answer to an insertion and the store it leaves. An overflow loses the store, for the request
that stops in it holds its lock. -/
def save? (found : List Car) (store : Option LoggedMemory) :
    Option (Except Error Nat × LoggedMemory) :=
  store.bind fun m =>
    if m.memory.overflows (.insert found) then none else some (s.backend.addCars found m)

/-- One step of a request: the next look-up, or the insertion when nothing is left to look up. -/
def Progress.step : Progress → Option LoggedMemory → Option (Progress × Option LoggedMemory)
  | lookingUp found (regNum :: rest), store =>
    match s.lookup regNum with
    | .ok car => some (lookingUp (found ++ [car]) rest, store)
    | .error e => some (finished (.error (.registryLookup regNum e)), store)
  | lookingUp found [], store =>
    match save? s found store with
    | some (answer, saved) => some (finished answer, some saved)
    | none => some (stopped, none)
  | finished _, _ | stopped, _ => none

structure Request where
  regNums : List String
  progress : Progress

namespace Request

/-- A request without numbers is refused at once. -/
def start (regNums : List String) : Request where
  regNums
  progress :=
    if regNums.isEmpty then .finished (.error (.validation "regNums" "must not be empty"))
    else .lookingUp [] regNums

def isDone (r : Request) : Bool :=
  match r.progress with
  | .lookingUp .. => false
  | .finished _ | .stopped => true

/-- Whether a request that is finished succeeded, and how it failed. -/
def outcome? (r : Request) : Option (Except Error Unit) :=
  match r.progress with
  | .finished answer => some (answer.map fun _ => ())
  | .lookingUp .. | .stopped => none

def count (r : Request) : Nat :=
  match r.progress with
  | .finished (.ok count) => count
  | _ => 0

end Request

/-- Requests under way and the store they share, until it is lost. -/
structure Clients where
  requests : List Request
  store : Option LoggedMemory

namespace Clients

def outcomes (c : Clients) : List (Option (Except Error Unit)) := c.requests.map (·.outcome?)

def total (c : Clients) : Nat := (c.requests.map (·.count)).sum

/-- The requests one after the other, each of them as a whole. -/
def oneByOne : List (List String) → LoggedMemory → Clients
  | [], m => ⟨[], some m⟩
  | regNums :: rest, m =>
    let (answer, next) := s.addCars regNums m
    let others := oneByOne rest next
    ⟨⟨regNums, .finished answer⟩ :: others.requests, others.store⟩

end Clients

/-- Any one of the requests takes its next step. -/
inductive Step : Clients → Clients → Prop
  | request (before after : List Request) (regNums : List String) {p p' : Progress}
      {store store' : Option LoggedMemory} (h : p.step s store = some (p', store')) :
      Step ⟨before ++ ⟨regNums, p⟩ :: after, store⟩ ⟨before ++ ⟨regNums, p'⟩ :: after, store'⟩

/-- The steps of the requests were taken in some order, until no request had any left. -/
structure Interleaving (requests : List (List String)) (m : LoggedMemory) (finish : Clients) :
    Prop where
  steps : ReflTransGen (Step s) ⟨requests.map .start, some m⟩ finish
  done : ∀ r ∈ finish.requests, r.isDone = true

/-! ## What the requests come to in any order -/

section Resolved

variable (regNums : List String)

/-- How an addition of the numbers fails or that it succeeds, whatever the store holds. -/
def verdict : Except Error Unit :=
  if regNums.isEmpty then .error (.validation "regNums" "must not be empty")
  else (resolve s.lookup regNums).map fun _ => ()

/-- The records of the numbers, or none when a number has no record. -/
def resolved : List Car :=
  match resolve s.lookup regNums with
  | .ok cars => cars
  | .error _ => []

theorem lookup_of_mem_resolved {car : Car} (h : car ∈ resolved s regNums) :
    ∃ regNum, s.lookup regNum = .ok car := by
  rw [resolved] at h
  cases hresolve : resolve s.lookup regNums with
  | error e =>
    rw [hresolve] at h
    exact absurd h List.not_mem_nil
  | ok cars =>
    rw [hresolve] at h
    dsimp only at h
    have hall := forall₂_of_resolve hresolve
    clear hresolve
    induction hall with
    | nil => exact absurd h List.not_mem_nil
    | @cons regNum found _ _ hfound _ ih =>
      rcases List.mem_cons.1 h with rfl | h
      · exact ⟨regNum, hfound⟩
      · exact ih h

/-- The records of numbers looked up in two parts. -/
theorem resolve_append {front back : List String} {found : List Car}
    (h : resolve s.lookup front = .ok found) :
    resolve s.lookup (front ++ back) = (resolve s.lookup back).map (found ++ ·) := by
  induction front generalizing found with
  | nil =>
    cases h
    rw [List.nil_append]
    cases resolve s.lookup back <;> rfl
  | cons regNum front ih =>
    cases hlookup : s.lookup regNum with
    | error e =>
      rw [resolve_cons_error hlookup] at h
      cases h
    | ok car =>
      rw [resolve_cons_ok hlookup] at h
      cases hfront : resolve s.lookup front with
      | error e =>
        rw [hfront] at h
        cases h
      | ok more =>
        rw [hfront] at h
        cases h
        rw [List.cons_append, resolve_cons_ok hlookup, ih hfront]
        cases resolve s.lookup back <;> rfl

def Request.saved (r : Request) : List Car :=
  match r.progress with
  | .finished _ => resolved s r.regNums
  | .lookingUp .. | .stopped => []

theorem saved_start :
    (Request.start regNums).saved s = [] ∧ (Request.start regNums).count = 0 := by
  cases regNums with
  | nil => exact ⟨rfl, rfl⟩
  | cons regNum rest => exact ⟨rfl, rfl⟩

end Resolved

/-- The records that the requests save, or would save if ids were left for them. -/
def batchOf (requests : List (List String)) : List Car := requests.flatMap (resolved s)

/-- How many registration numbers the requests bring that are not stored. -/
def newNumbers (requests : List (List String)) (m : LoggedMemory) : Nat :=
  (((batchOf s requests).map (·.regNum)).toFinset \ m.memory.regNums.toFinset).card

theorem newNumbers_eq (requests : List (List String)) (m : LoggedMemory) :
    newNumbers s requests m = (m.memory.insert (batchOf s requests)).2 :=
  (m.memory.count_insert _).symm

/-! ## Requests that are not interrupted -/

section Alone

variable {s} (hs : s.backend.exec = exec) (before after : List Request) (regNums : List String)

theorem save?_of_fits {found : List Car} {m : LoggedMemory}
    (h : m.memory.lastId.toInt + (m.memory.insert found).2 ≤ 2147483647) :
    save? s found (some m) = some (s.backend.addCars found m) := by
  have hfits : ¬ m.memory.overflows (.insert found) = true := by
    rw [Memory.overflows_insert_iff]
    exact Int.not_lt.2 h
  rw [save?, Option.bind_some, if_neg hfits]

/-- By induction on the numbers that are left. The last step is the insertion, for which there are ids.
-/
theorem steps_of_lookingUp (rest : List String) (found : List Car) {m : LoggedMemory}
    (h : ∀ cars, resolve s.lookup rest = .ok cars →
      m.memory.lastId.toInt + (m.memory.insert (found ++ cars)).2 ≤ 2147483647) :
    ReflTransGen (Step s) ⟨before ++ ⟨regNums, .lookingUp found rest⟩ :: after, some m⟩
      (match resolve s.lookup rest with
        | .error e => ⟨before ++ ⟨regNums, .finished (.error e)⟩ :: after, some m⟩
        | .ok cars =>
          ⟨before ++ ⟨regNums, .finished (s.backend.addCars (found ++ cars) m).1⟩ :: after,
            some (s.backend.addCars (found ++ cars) m).2⟩) := by
  -- What was found so far is arbitrary: each look-up puts one record behind it.
  induction rest generalizing found with
  | nil =>
    have hsave := h [] rfl
    rw [List.append_nil] at hsave
    rw [resolve]
    dsimp only
    rw [List.append_nil]
    apply ReflTransGen.single
    apply Step.request
    rw [Progress.step, save?_of_fits hsave]
    rfl
  | cons regNum rest ih =>
    cases hlookup : s.lookup regNum with
    | error e =>
      rw [resolve_cons_error hlookup]
      apply ReflTransGen.single
      apply Step.request
      rw [Progress.step, hlookup]
    | ok car =>
      have hstep : Step s ⟨before ++ ⟨regNums, .lookingUp found (regNum :: rest)⟩ :: after, some m⟩
          ⟨before ++ ⟨regNums, .lookingUp (found ++ [car]) rest⟩ :: after, some m⟩ := by
        apply Step.request
        rw [Progress.step, hlookup]
      have hrest : ∀ cars, resolve s.lookup rest = .ok cars →
          m.memory.lastId.toInt + (m.memory.insert (found ++ [car] ++ cars)).2 ≤ 2147483647 := by
        intro cars hcars
        rw [List.append_assoc]
        apply h
        rw [resolve_cons_ok hlookup, hcars]
        rfl
      have hsteps := ih (found ++ [car]) hrest
      rw [resolve_cons_ok hlookup]
      cases hresolve : resolve s.lookup rest with
      | error e =>
        rw [hresolve] at hsteps
        exact ReflTransGen.head hstep hsteps
      | ok cars =>
        rw [hresolve] at hsteps
        dsimp only at hsteps
        rw [List.append_assoc] at hsteps
        exact ReflTransGen.head hstep hsteps

/-- A request that is not interrupted comes to what an addition of its numbers comes to. -/
theorem steps_alone {m : LoggedMemory}
    (h : m.memory.lastId.toInt + (m.memory.insert (resolved s regNums)).2 ≤ 2147483647) :
    ReflTransGen (Step s) ⟨before ++ Request.start regNums :: after, some m⟩
      ⟨before ++ ⟨regNums, .finished (s.addCars regNums m).1⟩ :: after,
        some (s.addCars regNums m).2⟩ := by
  cases hempty : regNums.isEmpty with
  | true =>
    have hrefused : s.addCars regNums m =
        (.error (.validation "regNums" "must not be empty"), m) := by
      rw [Service.addCars, hempty]
      rfl
    rw [Request.start, hempty, hrefused]
    exact ReflTransGen.refl
  | false =>
    have hfits : ∀ cars, resolve s.lookup regNums = .ok cars →
        m.memory.lastId.toInt + (m.memory.insert ([] ++ cars)).2 ≤ 2147483647 := by
      intro cars hcars
      rw [resolved, hcars] at h
      exact h
    have hsteps := steps_of_lookingUp before after regNums regNums [] hfits
    rw [Request.start, hempty, Service.addCars, hempty]
    cases hresolve : resolve s.lookup regNums with
    | error e =>
      rw [hresolve] at hsteps
      exact hsteps
    | ok cars =>
      rw [hresolve] at hsteps
      exact hsteps

include hs

theorem memory_addCars (m : LoggedMemory) :
    (s.addCars regNums m).2.memory = (m.memory.insert (resolved s regNums)).1 := by
  by_cases hne : regNums = []
  · subst hne
    rfl
  · cases hresolve : resolve s.lookup regNums with
    | error e =>
      rw [addCars_of_unresolved s hne hresolve, resolved, hresolve]
      rfl
    | ok cars =>
      obtain ⟨compiled, hadd⟩ := addCars_of_resolved s hs hne hresolve m
      rw [hadd, resolved, hresolve]

theorem steps_oneByOne (requests : List (List String)) (before : List Request) {m : LoggedMemory}
    (h : m.memory.lastId.toInt + (m.memory.insert (batchOf s requests)).2 ≤ 2147483647) :
    ReflTransGen (Step s) ⟨before ++ requests.map .start, some m⟩
      ⟨before ++ (Clients.oneByOne s requests m).requests, (Clients.oneByOne s requests m).store⟩ := by
  -- The requests in front are finished, and the next one starts from the store they left.
  induction requests generalizing before m with
  | nil => exact ReflTransGen.refl
  | cons regNums rest ih =>
    rw [batchOf, List.flatMap_cons, ← batchOf, Memory.insert_append] at h
    have hone : m.memory.lastId.toInt + (m.memory.insert (resolved s regNums)).2 ≤ 2147483647 := by
      omega
    have hothers : (s.addCars regNums m).2.memory.lastId.toInt +
        ((s.addCars regNums m).2.memory.insert (batchOf s rest)).2 ≤ 2147483647 := by
      rw [memory_addCars hs, Memory.toInt_lastId_insert hone]
      omega
    have hfirst := steps_alone before (rest.map .start) regNums hone
    have hrest := ih (before ++ [⟨regNums, .finished (s.addCars regNums m).1⟩]) hothers
    rw [List.append_assoc, List.append_assoc] at hrest
    exact hfirst.trans hrest

omit hs in
theorem isDone_oneByOne (requests : List (List String)) (m : LoggedMemory) :
    ∀ r ∈ (Clients.oneByOne s requests m).requests, r.isDone = true := by
  induction requests generalizing m with
  | nil => exact fun r hr => absurd hr List.not_mem_nil
  | cons regNums rest ih =>
    intro r hr
    rw [Clients.oneByOne] at hr
    rcases List.mem_cons.1 hr with rfl | hr
    · rfl
    · exact ih (s.addCars regNums m).2 r hr

/-- The requests may be carried out one by one. -/
theorem interleaving_oneByOne (requests : List (List String)) {m : LoggedMemory}
    (h : m.memory.lastId.toInt + (m.memory.insert (batchOf s requests)).2 ≤ 2147483647) :
    Interleaving s requests m (Clients.oneByOne s requests m) where
  steps := steps_oneByOne hs requests [] h
  done := isDone_oneByOne requests m

end Alone

end VehicleRecords.Service
