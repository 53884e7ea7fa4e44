import VehicleRecords.Proofs.Http.Failure
import VehicleRecords.Proofs.Json.Cars
import VehicleRecords.Proofs.Service.Edit
import VehicleRecords.Proofs.Store.Listing
import VehicleRecords.Proofs.Text.Decimal
import VehicleRecords.Proofs.Text.Split

namespace VehicleRecords.Http

open Json (Tree Reader)

/-! ## Paths -/

def carPath (id : Int32) : String := "/api/car/" ++ toString id.toInt

/-- The segments that a path is joined from are found again. -/
theorem segments_eq {path : String} {segments : List String}
    (hpath : path.toList = ['/'].intercalate ([] :: segments.map String.toList))
    (h : ∀ s ∈ segments, '/' ∉ s.toList ∧ s.toList.isEmpty = false) :
    ((Text.cut '/' path.toList).filter (!·.isEmpty)).map String.ofList = segments := by
  have hcut : Text.cut '/' path.toList = [] :: segments.map String.toList := by
    rw [hpath]
    refine Text.cut_intercalate '/' _ (List.cons_ne_nil _ _) ?_
    rw [List.forall_mem_cons, List.forall_mem_map]
    exact ⟨List.not_mem_nil, fun s hs => (h s hs).1⟩
  have hfilter : (segments.map String.toList).filter (!·.isEmpty) = segments.map String.toList := by
    rw [List.filter_eq_self, List.forall_mem_map]
    intro s hs
    rw [(h s hs).2, Bool.not_false]
  rw [hcut, List.filter_cons_of_neg (by decide), hfilter, List.map_map]
  exact (List.map_congr_left fun s _ => String.ofList_toList).trans (List.map_id _)

theorem isSegment_toString (n : Int) :
    '/' ∉ (toString n).toList ∧ (toString n).toList.isEmpty = false := by
  refine ⟨fun h => absurd (Text.mem_toString h) (by decide), ?_⟩
  cases n with
  | negSucc k =>
    rw [Text.toList_negSucc]
    rfl
  | ofNat k =>
    rw [Text.toList_ofNat, List.isEmpty_eq_false_iff]
    exact Nat.toDigits_ne_nil

theorem resolve_carPath (id : Int32) :
    Route.resolve "GET" (carPath id) = .ok (.getCar (toString id.toInt)) := by
  have hjoined : (carPath id).toList =
      ['/'].intercalate ([] :: ["api", "car", toString id.toInt].map String.toList) := by
    rw [carPath, String.toList_append]
    simp [List.intercalate]
  have hsegments := segments_eq hjoined (by
    refine List.forall_mem_cons.2 ⟨by decide, List.forall_mem_cons.2 ⟨by decide, ?_⟩⟩
    exact List.forall_mem_singleton.2 (isSegment_toString id.toInt))
  have hpath : Route.ofPath? (carPath id) = some (.getCar (toString id.toInt)) := by
    rw [Route.ofPath?, hsegments]
    rfl
  rw [Route.resolve, hpath]
  rfl

theorem resolve_editPath (id : Int32) :
    Route.resolve "PATCH" (carPath id ++ "/edit") = .ok (.editCar (toString id.toInt)) := by
  have hjoined : (carPath id ++ "/edit").toList =
      ['/'].intercalate ([] :: ["api", "car", toString id.toInt, "edit"].map String.toList) := by
    rw [carPath, String.toList_append, String.toList_append]
    simp [List.intercalate]
  have hsegments := segments_eq hjoined (by
    refine List.forall_mem_cons.2 ⟨by decide, List.forall_mem_cons.2 ⟨by decide, ?_⟩⟩
    exact List.forall_mem_cons.2
      ⟨isSegment_toString id.toInt, List.forall_mem_singleton.2 (by decide)⟩)
  have hpath : Route.ofPath? (carPath id ++ "/edit") = some (.editCar (toString id.toInt)) := by
    rw [Route.ofPath?, hsegments]
    rfl
  rw [Route.resolve, hpath]
  rfl

/-! ## Answers -/

open Json (carRecord patchRecord ofCar ofPatch)

variable {α σ : Type}

theorem withId_toString (id : Int32) (run : Int64 → StateM σ Response) :
    withId (toString id.toInt) run = run id.toInt64 := by
  have hread : Text.IntegerRange.int32.read (toString id.toInt).toList = .ok id.toInt :=
    Text.IntegerRange.read_toString_int _ (by decide) id.le_toInt (Int.le_of_lt_add_one id.toInt_lt)
  rw [withId, hread]
  exact congrArg run (Int64.ofInt_int32ToInt id)

/-- The answer is a success. Its body is a document with one member, whose value is read as `a`,
also when the members of objects in it are reordered. -/
def Delivers (answer : Response) (key : String) (read : Reader α) (a : α) : Prop :=
  answer.status = .ok ∧ ∃ value, (Json.object [(key, value)]).IsTextOf answer.body ∧
    ∀ value', value.Reordered value' → read value' = .ok a

theorem delivers_json (key : String) {value : Tree} (hfits : value.Fits 1) {read : Reader α}
    (hstable : read.Stable) {a : α} (hread : read value = .ok a) :
    Delivers (.json .ok (Json.object [(key, value)])) key read a := by
  refine ⟨rfl, value, Tree.isTextOf_bytes (Json.fits_object (by decide) ?_), ?_⟩
  · exact List.forall_mem_singleton.2 hfits
  · exact fun value' hvalue => hstable value value' a hvalue hread

theorem delivers_getCar (s : Service σ) (id : Int32) (query : Option String) (body : Option Bytes)
    {state after : σ} {car : Car} (h : s.getCar id.toInt64 state = (.ok car, after)) :
    Delivers (handle s ⟨"GET", ⟨carPath id, query⟩, body⟩ state).1 "car" carRecord.read car := by
  rw [handle, resolve_carPath]
  dsimp only [handleRoute]
  rw [withId_toString, answer_apply, h]
  exact delivers_json "car" (Json.fits_ofCar (by decide) car) Json.orderless_carRecord.stable_read
    (Json.read_ofCar car)

theorem delivers_listCars (s : Service σ) (query : Option String) (body : Option Bytes)
    {state after : σ} {listing : Listing} {filter : Filter} {cars : List Car}
    (hparse : Listing.parse query = .ok listing)
    (hbuild : s.buildFilter listing.fields = .ok filter)
    (h : s.listCars filter listing.pagination state = (.ok cars, after)) :
    Delivers (handle s ⟨"GET", ⟨"/api/cars", query⟩, body⟩ state).1 "cars" (.list carRecord.read)
      cars := by
  have hroute : Route.resolve "GET" "/api/cars" = .ok .listCars := by decide
  have hfits : (Tree.array (cars.map ofCar)).Fits 1 := by
    refine ⟨by decide, Tree.itemsFit_iff.2 ?_⟩
    rw [List.forall_mem_map]
    exact fun car _ => Json.fits_ofCar (by decide) car
  rw [handle, hroute]
  dsimp only [handleRoute]
  rw [listCars, hparse]
  dsimp only
  rw [hbuild]
  dsimp only
  rw [answer_apply, h]
  exact delivers_json "cars" hfits Json.orderless_carRecord.stable_read.list (Json.read_ofCars cars)

/-- The request to edit a vehicle does what the patch does that its body is a document of. -/
theorem handle_editCar (s : Service σ) (id : Int32) (query : Option String) {bytes : Bytes}
    {patch : CarPatch} (h : Json.decode patchRecord.read bytes = .ok patch) :
    handle s ⟨"PATCH", ⟨carPath id ++ "/edit", query⟩, some bytes⟩ =
      answer done (s.editCar id.toInt64 patch) := by
  rw [handle, resolve_editPath]
  dsimp only [handleRoute]
  rw [withId_toString, withBody]
  dsimp only
  rw [h]

/-! ## A store in memory -/

open Store LoggedMemory

theorem getCar_of_mem (s : Service LoggedMemory) (hs : s.backend.exec = exec) {m : LoggedMemory}
    (hids : m.memory.ids.Nodup) {car : Car} (hcar : car ∈ m.memory.cars) :
    ∃ after, s.getCar car.id.toInt64 m = (.ok car, after) := by
  obtain ⟨before, after, hat⟩ := Memory.exists_at_of_nodup hids hcar
  have houtcome := (s.getCar_outcome hs car.id.toInt64 m).2
  rw [hat.find?_eq] at houtcome
  exact ⟨_, Prod.ext houtcome rfl⟩

/-- A listing without conditions and page has all records in their order. -/
theorem listCars_all (s : Service LoggedMemory) (hs : s.backend.exec = exec) (m : LoggedMemory) :
    ∃ after, s.listCars [] {} m = (.ok m.memory.cars, after) := by
  have hwell : ∀ p ∈ ([] : Filter), p.WellTyped := nofun
  obtain ⟨keep, hselect, hkeep⟩ := select_of_wellTyped hwell
  have hall : m.memory.cars.filter keep = m.memory.cars :=
    List.filter_eq_self.2 fun car _ => (hkeep car).2 (.inl rfl)
  have hlist := (listCars_eq hs [] {} m).1
  rw [hselect, hall] at hlist
  exact ⟨_, Prod.ext hlist rfl⟩

/-- What a service answers of vehicles is read back as what its store gave, one vehicle as well as
the vehicles of a listing in their order; with unique ids this is what is stored. A patch is written
with the fields that it sets and no others, an empty owner among them. Every text of what is written,
its members in any order, is read as this patch, and the request with it edits by this patch. -/
theorem documents_read_back :
    (∀ (σ : Type) (s : Service σ) (id : Int32) (query : Option String) (body : Option Bytes)
      (state after : σ) (car : Car), s.getCar id.toInt64 state = (.ok car, after) →
        Delivers (handle s ⟨"GET", ⟨carPath id, query⟩, body⟩ state).1 "car" carRecord.read car) ∧
    (∀ (σ : Type) (s : Service σ) (query : Option String) (body : Option Bytes) (state after : σ)
      (listing : Listing) (filter : Filter) (cars : List Car), Listing.parse query = .ok listing →
        s.buildFilter listing.fields = .ok filter →
        s.listCars filter listing.pagination state = (.ok cars, after) →
        Delivers (handle s ⟨"GET", ⟨"/api/cars", query⟩, body⟩ state).1 "cars"
          (.list carRecord.read) cars) ∧
    (∀ s : Service LoggedMemory, s.backend.exec = exec → ∀ m : LoggedMemory, m.memory.ids.Nodup →
      ∀ body, Delivers (handle s ⟨"GET", ⟨"/api/cars", none⟩, body⟩ m).1 "cars"
          (.list carRecord.read) m.memory.cars ∧
        ∀ car ∈ m.memory.cars, ∀ query,
          Delivers (handle s ⟨"GET", ⟨carPath car.id, query⟩, body⟩ m).1 "car" carRecord.read car) ∧
    ∀ patch : CarPatch, (ofPatch patch).IsTextOf (ofPatch patch).bytes ∧
      (ofPatch patch).members.map (·.1) = (Json.presentFields patch).map some ∧
      ((some "owner", Json.object []) ∈ (ofPatch patch).members ↔ patch.owner = some {}) ∧
      ∀ tree bytes, (ofPatch patch).Reordered tree → tree.IsTextOf bytes →
        Json.decode patchRecord.read bytes = .ok patch ∧
        ∀ (σ : Type) (s : Service σ) (id : Int32) (query : Option String),
          handle s ⟨"PATCH", ⟨carPath id ++ "/edit", query⟩, some bytes⟩ =
            answer done (s.editCar id.toInt64 patch) := by
  refine ⟨?car, ?cars, ?stored, ?patch⟩
  case car => exact fun _ s id query body _ _ _ h => delivers_getCar s id query body h
  case cars =>
    exact fun _ s query body _ _ _ _ _ hparse hbuild h =>
      delivers_listCars s query body hparse hbuild h
  case stored =>
    intro s hs m hids body
    constructor
    · obtain ⟨_, hlist⟩ := listCars_all s hs m
      have hparse : Listing.parse none = .ok {} := by decide
      exact delivers_listCars s none body hparse rfl hlist
    · intro car hcar query
      obtain ⟨_, hget⟩ := getCar_of_mem s hs hids hcar
      exact delivers_getCar s car.id query body hget
  case patch =>
    intro patch
    refine ⟨Tree.isTextOf_bytes (Json.fits_ofPatch (by decide) patch), Json.keys_ofPatch patch,
      Json.empty_owner_mem_iff patch, ?_⟩
    intro tree bytes htree hbytes
    have hread : Json.decode patchRecord.read bytes = .ok patch := by
      rw [hbytes.decode]
      exact Json.orderless_patchRecord.stable_read _ _ patch htree (Json.read_ofPatch patch)
    exact ⟨hread, fun _ s id query => handle_editCar s id query hread⟩

/-- The texts of the record hold quotes, backslashes, control characters and characters of every
length, and its id is the least one. The members of the patch stand in another order. -/
theorem documents_of_hostile_texts :
    let owner : Owner := ⟨"", "a\x0cb\x7f/", "\u2028\uffff"⟩
    let car : Car := ⟨-2147483648, "A\"1\\n", "\x00\x1f\n\t", "é😀", 65535, owner⟩
    let m : LoggedMemory := { memory := { cars := [car] } }
    let s := Service.permissive LoggedMemory.backend
    let tree := Json.object [("owner", Json.object []), ("mark", Json.text "\"")]
    (∃ after, s.getCar (-2147483648) m = (.ok car, after)) ∧ m.memory.ids.Nodup ∧
    Delivers (handle s ⟨"GET", ⟨carPath (-2147483648), none⟩, some []⟩ m).1 "car" carRecord.read
      car ∧
    Delivers (handle s ⟨"GET", ⟨"/api/cars", some "limit=1"⟩, none⟩ m).1 "cars"
      (.list carRecord.read) [car] ∧
    Delivers (handle s ⟨"GET", ⟨"/api/cars", none⟩, none⟩ m).1 "cars" (.list carRecord.read) [car] ∧
    Json.decode patchRecord.read tree.bytes = .ok { mark := some "\"", owner := some {} } := by
  intro owner car m s tree
  have hids : m.memory.ids.Nodup := by decide
  obtain ⟨after, hget⟩ := getCar_of_mem s rfl hids List.mem_cons_self
  have hstored := documents_read_back.2.2.1 s rfl m hids none
  have htree : tree.IsTextOf tree.bytes := Tree.isTextOf_bytes (Json.fits_object (by decide)
    (List.forall_mem_cons.2 ⟨Json.fits_object (by decide) nofun,
      List.forall_mem_singleton.2 (Json.fits_text ..)⟩))
  have horder : (ofPatch { mark := some "\"", owner := some {} }).Reordered tree :=
    .object rfl (.cons (.refl _) (.cons (.refl _) .nil)) (.swap _ _ [])
  exact ⟨⟨after, hget⟩, hids, documents_read_back.1 _ s _ none (some []) m after car hget,
    documents_read_back.2.1 _ s _ none m _ ⟨[], ⟨1, 0⟩⟩ [] [car] (by decide) rfl rfl,
    hstored.1, ((documents_read_back.2.2.2 _).2.2.2 tree tree.bytes horder htree).1⟩

end VehicleRecords.Http
