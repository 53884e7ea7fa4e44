import VehicleRecords.Proofs.Service.Clients
import VehicleRecords.Proofs.Service.Edit
import VehicleRecords.Proofs.Store.Order

/-!
The order of requests to add records. As long as there are ids for all, it decides neither which
requests succeed nor which records are stored (`interleavings_agree`). Where the requests share the last
ids it decides both (`interleavings_differ_at_last_id`).
-/
namespace VehicleRecords.Service

open Store LoggedMemory Relation

variable (s : Service LoggedMemory)

/-- A request stands where the look-ups of its first numbers brought it, or it came to the verdict on
its numbers. -/
inductive Standing : Request → Prop
  | lookingUp {earlier rest : List String} {found : List Car} (hne : earlier ++ rest ≠ [])
      (hfound : resolve s.lookup earlier = .ok found) :
      Standing ⟨earlier ++ rest, .lookingUp found rest⟩
  | finished {regNums : List String} {answer : Except Error Nat}
      (h : answer.map (fun _ => ()) = verdict s regNums) : Standing ⟨regNums, .finished answer⟩

theorem standing_start (regNums : List String) : Standing s (Request.start regNums) := by
  cases hempty : regNums.isEmpty with
  | true =>
    rw [Request.start, hempty]
    apply Standing.finished
    rw [verdict, hempty]
    rfl
  | false =>
    rw [Request.start, hempty]
    have hne : [] ++ regNums ≠ [] := by
      rw [List.nil_append, ← List.isEmpty_eq_false_iff]
      exact hempty
    exact Standing.lookingUp hne rfl

variable {s}

theorem mem_batchOf_of_saved {requests : List (List String)} {r : Request}
    (hr : r.regNums ∈ requests) {car : Car} (hcar : car ∈ r.saved s) : car ∈ batchOf s requests := by
  rcases r with ⟨regNums, progress⟩
  cases progress with
  | lookingUp | stopped => exact absurd hcar List.not_mem_nil
  | finished answer => exact List.mem_flatMap.2 ⟨regNums, hr, hcar⟩

section Store

/-- A request puts `cars` into a store that has ids for them. -/
structure GoesOn (s : Service LoggedMemory) (r r' : Request) (m m' : Memory) (cars : List Car) :
    Prop where
  standing : Standing s r'
  saved : r'.saved s = r.saved s ++ cars
  memory : m' = (m.insert cars).1
  count : r'.count = r.count + (m.insert cars).2
  fits : m.lastId.toInt + (m.insert cars).2 ≤ 2147483647

theorem GoesOn.of_lookup {r r' : Request} (hstanding : Standing s r') (hsaved : r'.saved s = r.saved s)
    (hcount : r'.count = r.count) (m : Memory) : GoesOn s r r' m m [] where
  standing := hstanding
  saved := hsaved.trans (List.append_nil _).symm
  memory := rfl
  count := hcount
  fits := Int.le_trans (Int.le_of_eq (Int.add_zero _)) m.lastId.toInt_le

/-- A look-up leaves the store as it is. It brings the request one number further, or it is the first
one to fail and so decides the verdict. -/
theorem Standing.step_lookup {earlier rest : List String} {regNum : String} {found : List Car}
    {p' : Progress} {m : LoggedMemory} {store' : Option LoggedMemory}
    (hfound : resolve s.lookup earlier = .ok found)
    (h : Progress.step s (.lookingUp found (regNum :: rest)) (some m) = some (p', store')) :
    store' = some m ∧ GoesOn s ⟨earlier ++ regNum :: rest, .lookingUp found (regNum :: rest)⟩
      ⟨earlier ++ regNum :: rest, p'⟩ m.memory m.memory [] := by
  have hne : earlier ++ regNum :: rest ≠ [] :=
    List.append_ne_nil_of_right_ne_nil _ (List.cons_ne_nil _ _)
  cases hlookup : s.lookup regNum with
  | error e =>
    rw [Progress.step, hlookup] at h
    cases h
    have hresolve : resolve s.lookup (earlier ++ regNum :: rest) =
        .error (.registryLookup regNum e) := by
      rw [resolve_append s hfound, resolve_cons_error hlookup]
      rfl
    refine ⟨rfl, GoesOn.of_lookup (Standing.finished ?verdict) ?saved ?count m.memory⟩
    case verdict =>
      rw [verdict, List.isEmpty_eq_false_iff.2 hne, hresolve]
      rfl
    case saved =>
      rw [Request.saved, resolved, hresolve]
      rfl
    case count => rfl
  | ok car =>
    rw [Progress.step, hlookup] at h
    cases h
    have hmore : resolve s.lookup (earlier ++ [regNum]) = .ok (found ++ [car]) := by
      rw [resolve_append s hfound, resolve_cons_ok hlookup]
      rfl
    have hstanding : Standing s ⟨earlier ++ regNum :: rest, .lookingUp (found ++ [car]) rest⟩ := by
      rw [List.append_cons] at hne ⊢
      exact Standing.lookingUp hne hmore
    refine ⟨rfl, GoesOn.of_lookup hstanding ?saved ?count m.memory⟩
    case saved => rfl
    case count => rfl

variable (hs : s.backend.exec = exec)

include hs

/-- The insertion of a request puts its records into the store, or there are no ids for them. -/
theorem Standing.step_save {regNums : List String} {found : List Car} {p' : Progress}
    {m : LoggedMemory} {store' : Option LoggedMemory} (hne : regNums ≠ [])
    (hfound : resolve s.lookup regNums = .ok found)
    (h : Progress.step s (.lookingUp found []) (some m) = some (p', store')) :
    (∃ m', store' = some m' ∧ GoesOn s ⟨regNums, .lookingUp found []⟩ ⟨regNums, p'⟩
      m.memory m'.memory found) ∨
    (store' = none ∧ 2147483647 < m.memory.lastId.toInt + (m.memory.insert found).2) := by
  by_cases hfits : m.memory.lastId.toInt + (m.memory.insert found).2 ≤ 2147483647
  · obtain ⟨compiled, hsave⟩ := backend_addCars_eq s hs (ne_nil_of_resolve hne hfound) m
    rw [Progress.step, save?_of_fits hfits, hsave] at h
    cases h
    refine .inl ⟨_, rfl, Standing.finished ?verdict, ?saved, rfl, ?count, hfits⟩
    case verdict =>
      rw [verdict, List.isEmpty_eq_false_iff.2 hne, hfound]
      rfl
    case saved =>
      rw [Request.saved, resolved, hfound]
      rfl
    case count => exact (Nat.zero_add _).symm
  · rw [Int.not_le] at hfits
    have hover := (Memory.overflows_insert_iff m.memory found).2 hfits
    rw [Progress.step, save?, Option.bind_some, if_pos hover] at h
    cases h
    exact .inr ⟨rfl, hfits⟩

/-- A step inserts the records that the request has put into the store from then on, unless the ids do
not last for all the records of its numbers. -/
theorem Standing.step {regNums : List String} {p p' : Progress} {m : LoggedMemory}
    {store' : Option LoggedMemory} (hr : Standing s ⟨regNums, p⟩)
    (h : p.step s (some m) = some (p', store')) :
    (∃ m' cars, store' = some m' ∧
      GoesOn s ⟨regNums, p⟩ ⟨regNums, p'⟩ m.memory m'.memory cars) ∨
    (store' = none ∧
      2147483647 < m.memory.lastId.toInt + (m.memory.insert (resolved s regNums)).2) := by
  cases hr with
  | finished => cases h
  | @lookingUp earlier rest found hne hfound =>
    cases rest with
    | nil =>
      rw [List.append_nil] at hne ⊢
      have hresolved : resolved s earlier = found := by rw [resolved, hfound]
      rw [hresolved]
      rcases Standing.step_save hs hne hfound h with ⟨m', hstore, hgoes⟩ | hlost
      · exact .inl ⟨m', found, hstore, hgoes⟩
      · exact .inr hlost
    | cons regNum rest =>
      obtain ⟨hstore, hgoes⟩ := Standing.step_lookup hfound h
      exact .inl ⟨m, [], hstore, hgoes⟩

end Store

/-- The store of the requests is the one of the beginning with `batch` inserted, and the batch holds
what the requests have put into the store. -/
structure Tally (s : Service LoggedMemory) (requests : List (List String)) (m : Memory) (c : Clients)
    (batch : List Car) : Prop where
  requests_eq : c.requests.map (·.regNums) = requests
  standing : ∀ r ∈ c.requests, Standing s r
  records : c.store.map (·.memory) = some (m.insert batch).1
  counted : c.total = (m.insert batch).2
  saved : ∀ car, car ∈ batch ↔ car ∈ c.requests.flatMap (·.saved s)
  fits : m.lastId.toInt + (m.insert batch).2 ≤ 2147483647

theorem tally_start (s : Service LoggedMemory) (requests : List (List String)) (m : LoggedMemory) :
    Tally s requests m.memory ⟨requests.map .start, some m⟩ [] where
  requests_eq := by
    rw [List.map_map]
    exact List.map_id requests
  standing := by
    intro r hr
    obtain ⟨regNums, _, rfl⟩ := List.mem_map.1 hr
    exact standing_start s regNums
  records := rfl
  counted := by
    have hzero : ((requests.map Request.start).map (·.count)).sum = 0 := by
      induction requests with
      | nil => rfl
      | cons regNums rest ih =>
        rw [List.map_cons, List.map_cons, List.sum_cons, ih, (saved_start s regNums).2]
    exact hzero
  saved := by
    intro car
    constructor
    · intro h
      exact absurd h List.not_mem_nil
    · intro h
      obtain ⟨r, hr, hcar⟩ := List.mem_flatMap.1 h
      obtain ⟨regNums, _, rfl⟩ := List.mem_map.1 hr
      rwa [(saved_start s regNums).1] at hcar
  fits := Int.le_trans (Int.le_of_eq (Int.add_zero _)) m.memory.lastId.toInt_le

/-- The store is lost, for the ids do not last for the new records of all requests. -/
def Exhausted (s : Service LoggedMemory) (requests : List (List String)) (m : Memory) (c : Clients) :
    Prop :=
  c.store = none ∧ 2147483647 < m.lastId.toInt + (m.insert (batchOf s requests)).2

namespace Tally

variable {requests : List (List String)} {m : Memory} {c c' : Clients} {batch : List Car}

/-- Nothing is in the batch that is not among the records of all requests. -/
theorem mem_batchOf (h : Tally s requests m c batch) {car : Car} (hcar : car ∈ batch) :
    car ∈ batchOf s requests := by
  obtain ⟨r, hr, hsaved⟩ := List.mem_flatMap.1 ((h.saved car).1 hcar)
  rw [← h.requests_eq]
  exact mem_batchOf_of_saved (List.mem_map_of_mem hr) hsaved

/-- What a request puts into the store comes behind the batch, wherever the request stands in the list.
-/
theorem goesOn {before after : List Request} {r r' : Request} {now next : LoggedMemory}
    {cars : List Car} (h : Tally s requests m ⟨before ++ r :: after, some now⟩ batch)
    (hregNums : r'.regNums = r.regNums) (hr : GoesOn s r r' now.memory next.memory cars) :
    Tally s requests m ⟨before ++ r' :: after, some next⟩ (batch ++ cars) := by
  obtain ⟨hrequests, hstanding, hrecords, hcounted, hsaved, hfits⟩ := h
  obtain ⟨hnext, hcars, hmemory, hcount, hroom⟩ := hr
  have hnow : now.memory = (m.insert batch).1 := Option.some.inj hrecords
  rw [hnow] at hmemory hcount hroom
  dsimp only at hrequests hsaved
  rw [List.forall_mem_append, List.forall_mem_cons] at hstanding
  refine ⟨?_, ?_, ?_, ?_, ?_, ?_⟩
  · rw [← hrequests, List.map_append, List.map_append, List.map_cons, List.map_cons, hregNums]
  · rw [List.forall_mem_append, List.forall_mem_cons]
    exact ⟨hstanding.1, hnext, hstanding.2.2⟩
  · rw [Option.map_some, hmemory, Memory.insert_append]
  · rw [Clients.total, List.map_append, List.map_cons, List.sum_append, List.sum_cons] at hcounted
    rw [Clients.total, List.map_append, List.map_cons, List.sum_append, List.sum_cons, hcount,
      Memory.insert_append]
    dsimp only
    omega
  · -- In the list of what was saved, the new records stand behind those of the same request.
    intro car
    have hor {w x y z : Prop} : (w ∨ x ∨ y) ∨ z ↔ w ∨ (x ∨ z) ∨ y := by
      rw [or_assoc, or_assoc, or_assoc, @or_comm y z]
    rw [List.mem_append, hsaved, List.flatMap_append, List.flatMap_cons, List.mem_append,
      List.mem_append, List.flatMap_append, List.flatMap_cons, List.mem_append, List.mem_append,
      hcars, List.mem_append]
    exact hor
  · rw [Memory.insert_append]
    rw [Memory.toInt_lastId_insert hfits] at hroom
    dsimp only
    omega

/-- The records that find no ids are among those of all requests, as those of the batch are. -/
theorem lt_of_overflow (h : Tally s requests m c batch) {now : LoggedMemory}
    (hnow : c.store = some now) {r : Request} (hr : r ∈ c.requests)
    (hover : 2147483647 <
      now.memory.lastId.toInt + (now.memory.insert (resolved s r.regNums)).2) :
    2147483647 < m.lastId.toInt + (m.insert (batchOf s requests)).2 := by
  have hle : (m.insert (batch ++ resolved s r.regNums)).2 ≤ (m.insert (batchOf s requests)).2 := by
    apply Memory.count_insert_le
    intro car hcar
    rcases List.mem_append.1 hcar with hcar | hcar
    · exact h.mem_batchOf hcar
    · rw [← h.requests_eq]
      exact List.mem_flatMap.2 ⟨r.regNums, List.mem_map_of_mem hr, hcar⟩
  have hmemory := h.records
  rw [hnow, Option.map_some, Option.some.injEq] at hmemory
  rw [Memory.insert_append] at hle
  rw [hmemory, Memory.toInt_lastId_insert h.fits] at hover
  dsimp only at hle
  omega

/-- A look-up leaves the store and the batch alone; an insertion puts its records behind the batch, or
loses the store. -/
theorem step (hs : s.backend.exec = exec) (h : Tally s requests m c batch) (hstep : Step s c c') :
    (∃ batch', Tally s requests m c' batch') ∨ Exhausted s requests m c' := by
  cases hstep with
  | @request before after regNums p p' store store' hp =>
    have hr : ⟨regNums, p⟩ ∈ before ++ ⟨regNums, p⟩ :: after :=
      List.mem_append_right _ List.mem_cons_self
    obtain ⟨now, rfl, _⟩ := Option.map_eq_some_iff.1 h.records
    rcases (h.standing _ hr).step hs hp with ⟨next, cars, rfl, hgoes⟩ | ⟨rfl, hover⟩
    · exact .inl ⟨batch ++ cars, h.goesOn rfl hgoes⟩
    · exact .inr ⟨rfl, h.lt_of_overflow rfl hr hover⟩

/-- When no request has a step left, each has come to the verdict on its numbers. -/
theorem outcomes_eq (h : Tally s requests m c batch) (hdone : ∀ r ∈ c.requests, r.isDone = true) :
    c.outcomes = requests.map fun regNums => some (verdict s regNums) := by
  rw [Clients.outcomes, ← h.requests_eq, List.map_map]
  refine List.map_congr_left ?_
  intro r hr
  cases h.standing r hr with
  | lookingUp => exact absurd (hdone _ hr) Bool.false_ne_true
  | finished hanswer => exact congrArg some hanswer

/-- When no request has a step left, the batch holds the records of all their numbers. -/
theorem mem_batch_iff (h : Tally s requests m c batch) (hdone : ∀ r ∈ c.requests, r.isDone = true)
    (car : Car) : car ∈ batch ↔ car ∈ batchOf s requests := by
  refine ⟨h.mem_batchOf, fun hcar => ?_⟩
  rw [batchOf, ← h.requests_eq, List.flatMap_map] at hcar
  obtain ⟨r, hr, hcar⟩ := List.mem_flatMap.1 hcar
  have hsaved : r.saved s = resolved s r.regNums := by
    cases h.standing r hr with
    | lookingUp => exact absurd (hdone _ hr) Bool.false_ne_true
    | finished => rfl
  exact (h.saved car).2 (List.mem_flatMap.2 ⟨r, hr, hsaved ▸ hcar⟩)

end Tally

/-- Once the store is lost it stays so. -/
theorem Exhausted.step {requests : List (List String)} {m : Memory} {c c' : Clients}
    (h : Exhausted s requests m c) (hstep : Step s c c') : Exhausted s requests m c' := by
  cases hstep with
  | @request before after regNums p p' store store' hp =>
    obtain ⟨rfl, hover⟩ := h
    refine ⟨?_, hover⟩
    rcases p with ⟨found, _ | ⟨regNum, rest⟩⟩ | answer | _
    · cases hp
      rfl
    · rw [Progress.step] at hp
      cases hlookup : s.lookup regNum with
      | ok car =>
        rw [hlookup] at hp
        cases hp
        rfl
      | error e =>
        rw [hlookup] at hp
        cases hp
        rfl
    · cases hp
    · cases hp

/-- However the steps of the requests follow one another, the store takes in one batch or is lost. -/
theorem tally_of_steps (hs : s.backend.exec = exec) {requests : List (List String)}
    {m : LoggedMemory} {c : Clients} (h : ReflTransGen (Step s) ⟨requests.map .start, some m⟩ c) :
    (∃ batch, Tally s requests m.memory c batch) ∨ Exhausted s requests m.memory c := by
  induction h with
  | refl => exact .inl ⟨[], tally_start s requests m⟩
  | tail _ hstep ih =>
    rcases ih with ⟨batch, htally⟩ | hexhausted
    · exact htally.step hs hstep
    · exact .inr (hexhausted.step hstep)

/-- A registry that answers a number with a record of that number makes batches coherent. -/
theorem coherent_batchOf
    (hregistry : ∀ regNum car, s.lookup regNum = .ok car → car.regNum = regNum)
    (requests : List (List String)) : Memory.Coherent (batchOf s requests) := by
  have hlookup : ∀ car ∈ batchOf s requests, s.lookup car.regNum = .ok car := by
    intro car hcar
    obtain ⟨regNums, _, hmem⟩ := List.mem_flatMap.1 hcar
    obtain ⟨regNum, hfound⟩ := lookup_of_mem_resolved s regNums hmem
    rwa [hregistry regNum car hfound]
  intro a ha b hb hregNum
  have hsame := hlookup a ha
  rw [hregNum, hlookup b hb] at hsame
  cases hsame
  rfl

/-- The batches of two orders hold the same records, in other orders and numbers of times. -/
theorem Tally.agree {requests : List (List String)} {m : Memory} {c₁ c₂ : Clients}
    {batch₁ batch₂ : List Car}
    (hregistry : ∀ regNum car, s.lookup regNum = .ok car → car.regNum = regNum)
    (h₁ : Tally s requests m c₁ batch₁) (hdone₁ : ∀ r ∈ c₁.requests, r.isDone = true)
    (h₂ : Tally s requests m c₂ batch₂) (hdone₂ : ∀ r ∈ c₂.requests, r.isDone = true) :
    c₁.outcomes = c₂.outcomes ∧ c₁.total = c₂.total ∧
      ((m.insert batch₁).1.cars.map Car.withoutId).Perm
        ((m.insert batch₂).1.cars.map Car.withoutId) := by
  have hbatch₁ := h₁.mem_batch_iff hdone₁
  have hbatch₂ := h₂.mem_batch_iff hdone₂
  have hsame (car : Car) : car ∈ batch₁ ↔ car ∈ batch₂ := (hbatch₁ car).trans (hbatch₂ car).symm
  have hcoherent : Memory.Coherent batch₁ := by
    intro a ha b hb
    exact coherent_batchOf hregistry requests a ((hbatch₁ a).1 ha) b ((hbatch₁ b).1 hb)
  obtain ⟨hcount, hrecords⟩ := m.insert_of_same_records hcoherent hsame
  refine ⟨?_, ?_, hrecords⟩
  · rw [h₁.outcomes_eq hdone₁, h₂.outcomes_eq hdone₂]
  · rw [h₁.counted, h₂.counted, hcount]

section Agreement

variable (hs : s.backend = LoggedMemory.backend) {requests : List (List String)} {inserted : Nat}
  {m : LoggedMemory} (hreached : Reached LoggedMemory.backend {} inserted m)

include hs hreached

/-- The store outlasts the requests if and only if there are ids for all their new numbers, whatever
the order of the steps is. -/
theorem store_kept_iff (hn : inserted ≤ 2147483647) {c : Clients} (hc : Interleaving s requests m c) :
    (∃ saved, c.store = some saved) ↔ inserted + newNumbers s requests m ≤ 2147483647 := by
  have hlast := (consistent_of_reached hreached (Nat.lt_succ_of_le hn)).counted
  rw [newNumbers_eq]
  rcases tally_of_steps (exec_of_backend hs) hc.steps with ⟨batch, htally⟩ | ⟨hlost, hover⟩
  · obtain ⟨saved, hsaved, _⟩ := Option.map_eq_some_iff.1 htally.records
    have hle : (m.memory.insert (batchOf s requests)).2 ≤ (m.memory.insert batch).2 :=
      Memory.count_insert_le fun car hcar => (htally.mem_batch_iff hc.done car).2 hcar
    have hfits := htally.fits
    rw [hlast] at hfits
    refine iff_of_true ⟨saved, hsaved⟩ ?_
    omega
  · rw [hlast] at hover
    refine iff_of_false ?_ ?_
    · rintro ⟨saved, hsaved⟩
      rw [hlost] at hsaved
      cases hsaved
    · omega

end Agreement

/-- As long as there are ids for their new numbers, requests to add records come to the same in
whatever order they take their look-ups and insertions: the same ones succeed and fail and none is
stopped, the same number of records is inserted, and the store holds the same records up to their ids.
No registration number is stored twice. To carry the requests out one by one is one of the orders. -/
theorem interleavings_agree (s : Service LoggedMemory) (hs : s.backend = LoggedMemory.backend)
    (hregistry : ∀ regNum car, s.lookup regNum = .ok car → car.regNum = regNum)
    (requests : List (List String)) {inserted : Nat} {m : LoggedMemory}
    (hreached : Reached LoggedMemory.backend {} inserted m)
    (hids : inserted + newNumbers s requests m ≤ 2147483647) :
    Interleaving s requests m (Clients.oneByOne s requests m) ∧
    (∀ c, Interleaving s requests m c → none ∉ c.outcomes ∧ ∃ saved, c.store = some saved ∧
      saved.memory.cars.length = m.memory.cars.length + c.total ∧ saved.memory.regNums.Nodup) ∧
    ∀ c₁ c₂ saved₁ saved₂, Interleaving s requests m c₁ → Interleaving s requests m c₂ →
      c₁.store = some saved₁ → c₂.store = some saved₂ →
      c₁.outcomes = c₂.outcomes ∧ c₁.total = c₂.total ∧
      (saved₁.memory.cars.map Car.withoutId).Perm (saved₂.memory.cars.map Car.withoutId) := by
  have hexec := exec_of_backend hs
  have hbelow : inserted < 2147483648 := by omega
  have hm := consistent_of_reached hreached hbelow
  have hroom : m.memory.lastId.toInt + (m.memory.insert (batchOf s requests)).2 ≤ 2147483647 := by
    rw [hm.counted, ← newNumbers_eq]
    omega
  have htallies : ∀ c, Interleaving s requests m c → ∃ batch, Tally s requests m.memory c batch := by
    intro c hc
    rcases tally_of_steps hexec hc.steps with htally | ⟨_, hover⟩
    · exact htally
    · exact absurd hroom (Int.not_le.2 hover)
  refine ⟨interleaving_oneByOne hexec requests hroom, ?_, ?_⟩
  · intro c hc
    obtain ⟨batch, htally⟩ := htallies c hc
    obtain ⟨saved, hsaved, hrecords⟩ := Option.map_eq_some_iff.1 htally.records
    refine ⟨?_, saved, hsaved, ?_, ?_⟩
    · rw [htally.outcomes_eq hc.done, List.mem_map]
      rintro ⟨_, _, hnone⟩
      cases hnone
    · rw [hrecords, htally.counted]
      exact Memory.length_insert m.memory batch
    · obtain ⟨new, hnew, _⟩ := m.memory.exists_brings batch
      rw [hrecords]
      exact hnew.nodup_regNums hm.unique
  · intro c₁ c₂ saved₁ saved₂ hc₁ hc₂ hsaved₁ hsaved₂
    obtain ⟨batch₁, htally₁⟩ := htallies c₁ hc₁
    obtain ⟨batch₂, htally₂⟩ := htallies c₂ hc₂
    have hmemory₁ := htally₁.records
    have hmemory₂ := htally₂.records
    rw [hsaved₁, Option.map_some, Option.some.injEq] at hmemory₁
    rw [hsaved₂, Option.map_some, Option.some.injEq] at hmemory₂
    rw [hmemory₁, hmemory₂]
    exact htally₁.agree hregistry hc₁.done htally₂ hc₂.done

theorem permissive_lookup (regNum : String) (car : Car)
    (h : (permissive LoggedMemory.backend).lookup regNum = .ok car) : car.regNum = regNum := by
  cases h
  rfl

/-- Two requests with a number in common: carried out one by one, the first of them inserts two
records, and when the second one saves its records before the first one has looked up all its numbers,
the second one does. -/
theorem interleavings_with_other_counts :
    ∃ (late : Clients) (first last : LoggedMemory),
      let s := permissive LoggedMemory.backend
      let requests := [["A1", "B2"], ["B2", "C3", "B2"]]
      let early := Clients.oneByOne s requests {}
      (∀ regNum car, s.lookup regNum = .ok car → car.regNum = regNum) ∧
      Reached LoggedMemory.backend {} 0 {} ∧ 0 + newNumbers s requests {} ≤ 2147483647 ∧
      Interleaving s requests {} early ∧ Interleaving s requests {} late ∧
      early.requests.map (·.count) = [2, 1] ∧ late.requests.map (·.count) = [1, 2] ∧
      early.store = some first ∧ late.store = some last ∧
      first.memory.regNums = ["A1", "B2", "C3"] ∧ last.memory.regNums = ["B2", "C3", "A1"] ∧
      last.memory.regNums.Nodup ∧ early.outcomes = late.outcomes ∧ early.total = late.total ∧
      (first.memory.cars.map Car.withoutId).Perm (last.memory.cars.map Car.withoutId) := by
  -- The second request has all its turns between the two look-ups of the first one.
  have hsteps : ReflTransGen (Step (permissive LoggedMemory.backend))
      ⟨[["A1", "B2"], ["B2", "C3", "B2"]].map .start, some {}⟩ _ :=
    .head (.request [] [_] ["A1", "B2"] rfl) <|
    .head (.request [_] [] ["B2", "C3", "B2"] rfl) <|
    .head (.request [_] [] ["B2", "C3", "B2"] rfl) <|
    .head (.request [_] [] ["B2", "C3", "B2"] rfl) <|
    .head (.request [_] [] ["B2", "C3", "B2"] rfl) <|
    .head (.request [] [_] ["A1", "B2"] rfl) <|
    .single (.request [] [_] ["A1", "B2"] rfl)
  have hlate : Interleaving (permissive LoggedMemory.backend)
      [["A1", "B2"], ["B2", "C3", "B2"]] {} _ := ⟨hsteps, by decide⟩
  have hids : 0 + newNumbers (permissive LoggedMemory.backend) [["A1", "B2"], ["B2", "C3", "B2"]] {} ≤
      2147483647 := by decide
  obtain ⟨hearly, hstored, hagree⟩ := interleavings_agree (permissive LoggedMemory.backend) rfl
    permissive_lookup [["A1", "B2"], ["B2", "C3", "B2"]] Reached.start hids
  obtain ⟨_, last, hlast, _, hnodup⟩ := hstored _ hlate
  exact ⟨_, _, last, permissive_lookup, Reached.start, hids, hearly, hlate, by decide, by decide, rfl,
    hlast, by decide, by cases hlast; decide, hnodup, hagree _ _ _ _ hearly hlate rfl hlast⟩

/-! ## The last ids -/

/-- A record that is added and deleted again leaves nothing but a spent id. -/
theorem exists_reached_of_spent {inserted : Nat} {lastId : Int32} {log : List Execution}
    (hreached : Reached LoggedMemory.backend {} inserted ⟨⟨[], lastId⟩, log⟩) :
    ∃ m, Reached LoggedMemory.backend {} (inserted + 1) m ∧ m.memory.cars = [] := by
  let s := permissive LoggedMemory.backend
  have hresolve : resolve s.lookup ["A1"] = .ok [{ regNum := "A1" }] := rfl
  obtain ⟨compiled, hadd⟩ :=
    addCars_of_resolved s rfl (List.cons_ne_nil _ _) hresolve ⟨⟨[], lastId⟩, log⟩
  let car : Car := { id := lastId + 1, regNum := "A1" }
  let full : LoggedMemory := ⟨⟨[car], lastId + 1⟩, ⟨.insert [{ regNum := "A1" }], compiled⟩ :: log⟩
  have hadded : (Call.addCars ["A1"]).run s ⟨⟨[], lastId⟩, log⟩ = (.ok (.added 1), full) := by
    rw [Call.run, map_eq_pure_bind, StoreM.bind_apply, hadd]
    rfl
  have hat : full.memory.At car.id.toInt64 [] car [] :=
    ⟨rfl, rfl, fun _ hother => absurd hother List.not_mem_nil⟩
  obtain ⟨hmemory, hresult⟩ := deleteCar_outcome s rfl car.id.toInt64 full
  rw [Memory.run_deleteById_of_at hat] at hmemory hresult
  have hdeleted : (Call.deleteCar car.id.toInt64).run s full =
      (.ok .done, (s.deleteCar car.id.toInt64 full).2) := by
    rw [Call.run, map_eq_pure_bind, StoreM.bind_apply, ← Prod.eta (s.deleteCar _ full), hresult]
    rfl
  have hfull := hreached.call s rfl (.addCars ["A1"])
  rw [hadded] at hfull
  have hempty := hfull.call s rfl (.deleteCar car.id.toInt64)
  rw [hdeleted] at hempty
  refine ⟨_, hempty, ?_⟩
  rw [hmemory]
  rfl

theorem exists_reached_empty (inserted : Nat) :
    ∃ m, Reached LoggedMemory.backend {} inserted m ∧ m.memory.cars = [] := by
  induction inserted with
  | zero => exact ⟨{}, Reached.start, rfl⟩
  | succ n ih =>
    obtain ⟨⟨⟨_, lastId⟩, log⟩, hreached, rfl⟩ := ih
    exact exists_reached_of_spent hreached

/-- Two requests that bring three records where one id is left. The request with one number succeeds
when it comes first; when the other one comes first, it takes the last id and stops, and so does the
request behind it. -/
theorem interleavings_differ_at_last_id :
    ∃ m : LoggedMemory, Reached LoggedMemory.backend {} 2147483646 m ∧
      let s := permissive LoggedMemory.backend
      let requests := [["A1"], ["B2", "C3"]]
      (∀ regNum car, s.lookup regNum = .ok car → car.regNum = regNum) ∧
      ∃ c₁ c₂, Interleaving s requests m c₁ ∧ Interleaving s requests m c₂ ∧
        c₁.outcomes = [some (.ok ()), none] ∧ c₂.outcomes = [none, none] ∧
        c₁.total = 1 ∧ c₂.total = 0 := by
  obtain ⟨⟨⟨_, lastId⟩, log⟩, hreached, rfl⟩ := exists_reached_empty 2147483646
  have hlast : lastId = 2147483646 :=
    Int32.toInt_inj.1 (consistent_of_reached hreached (by decide)).counted
  subst hlast
  have hfirst : ReflTransGen (Step (permissive LoggedMemory.backend))
      ⟨[["A1"], ["B2", "C3"]].map .start, some ⟨⟨[], 2147483646⟩, log⟩⟩ _ :=
    .head (.request [] [_] ["A1"] rfl) <|
    .head (.request [] [_] ["A1"] rfl) <|
    .head (.request [_] [] ["B2", "C3"] rfl) <|
    .head (.request [_] [] ["B2", "C3"] rfl) <|
    .single (.request [_] [] ["B2", "C3"] rfl)
  have hsecond : ReflTransGen (Step (permissive LoggedMemory.backend))
      ⟨[["A1"], ["B2", "C3"]].map .start, some ⟨⟨[], 2147483646⟩, log⟩⟩ _ :=
    .head (.request [_] [] ["B2", "C3"] rfl) <|
    .head (.request [_] [] ["B2", "C3"] rfl) <|
    .head (.request [_] [] ["B2", "C3"] rfl) <|
    .head (.request [] [_] ["A1"] rfl) <|
    .single (.request [] [_] ["A1"] rfl)
  refine ⟨_, hreached, permissive_lookup, _, _, ⟨hfirst, ?_⟩, ⟨hsecond, ?_⟩, rfl, rfl, rfl, rfl⟩
  · exact List.forall_mem_cons.2 ⟨rfl, List.forall_mem_singleton.2 rfl⟩
  · exact List.forall_mem_cons.2 ⟨rfl, List.forall_mem_singleton.2 rfl⟩

end VehicleRecords.Service
