import VehicleRecords.Json.Cars
import VehicleRecords.Proofs.Json.Order
import VehicleRecords.Proofs.Json.Tree

/-!
Records, owners and patches read back. What is written of one of them is read as the same one,
whatever its texts are and whichever fields of a patch are present, also when the members are
reordered.
-/
namespace VehicleRecords.Json

variable {α β σ : Type}

/-! ## Fields one after another -/

namespace Record

def setAll (r : Record σ α) (draft : σ) (members : List (String × Tree)) : Except Problem σ :=
  members.foldlM (fun d m => r.set m.1 m.2 d) draft

variable (r : Record σ α)

/-- No key comes twice, so no member is refused. -/
theorem setMembers_eq_setAll {members : List (String × Tree)}
    (hfields : ∀ m ∈ members, m.1 ∈ r.fields) (hnodup : (members.map (·.1)).Nodup)
    (seen : List String) (hseen : ∀ m ∈ members, m.1 ∉ seen) (draft : σ) :
    r.setMembers seen draft (members.map fun (key, value) => (some key, value)) =
      r.setAll draft members := by
  induction members generalizing seen draft with
  | nil => rfl
  | cons m members ih =>
    obtain ⟨key, value⟩ := m
    rw [List.forall_mem_cons] at hfields hseen
    rw [List.map_cons, List.nodup_cons] at hnodup
    have hrest : ∀ m ∈ members, m.1 ∉ key :: seen := by
      intro m hm hmem
      rcases List.mem_cons.1 hmem with heq | hmem
      · exact hnodup.1 (heq ▸ List.mem_map_of_mem (f := (·.1)) hm)
      · exact hseen.2 m hm hmem
    rw [List.map_cons, setMembers, if_pos (List.contains_iff_mem.2 hfields.1),
      if_neg (mt List.contains_iff_mem.1 hseen.1), setAll, List.foldlM_cons]
    cases r.set key value draft with
    | error p => rfl
    | ok next => exact ih hfields.2 hnodup.2 (key :: seen) hrest next

/-- Members whose keys are fields, each of them once, set their fields one after another. -/
theorem read_object {members : List (String × Tree)} (d : σ) {a : α}
    (hfinish : r.finish .missingField d = .ok a) (hset : r.setAll r.draft members = .ok d)
    {keys : List String} (hfields : keys ⊆ r.fields) (hnodup : keys.Nodup)
    (hkeys : members.map (·.1) = keys) : r.read (object members) = .ok a := by
  subst hkeys
  have hmembers := r.setMembers_eq_setAll (fun m hm => hfields (List.mem_map_of_mem hm)) hnodup []
    (fun _ _ => nofun) r.draft
  rw [object, read, hmembers, hset]
  exact hfinish

/-- Members that may be left out come in the order of the fields. -/
theorem read_object_of_sublist {members : List (String × Tree)} (d : σ) {a : α}
    (hfinish : r.finish .missingField d = .ok a) (hset : r.setAll r.draft members = .ok d)
    (hfields : r.fields.Nodup) (hkeys : (members.map (·.1)).Sublist r.fields) :
    r.read (object members) = .ok a :=
  r.read_object d hfinish hset hkeys.subset (hkeys.nodup hfields) rfl

/-- A member that may be left out sets its field when it is there. -/
theorem setAll_present {key : String} {f : β → Tree} (put : Option β → σ)
    (hset : ∀ b, r.set key (f b) (put none) = .ok (put (some b))) (value : Option β)
    (rest : List (String × Tree)) :
    r.setAll (put none) (present key f value ++ rest) = r.setAll (put value) rest := by
  cases value with
  | none => rfl
  | some b =>
    rw [present, List.singleton_append, setAll, List.foldlM_cons, hset]
    rfl

end Record

/-! ## Owners and vehicles -/

theorem read_ofOwner (o : Owner) : ownerRecord.read (ofOwner o) = .ok o := by
  have hkeys : ["name", "patronymic", "surname"] ⊆ ownerRecord.fields := by decide
  exact ownerRecord.read_object ⟨some o.name, some o.surname, some o.patronymic⟩ rfl rfl hkeys
    (by decide) rfl

/-- An integer of a range within 64 bits is read as itself. -/
theorem integer_integer {range : Text.IntegerRange} (name : String) {n : Int}
    (hleast : Text.IntegerRange.int64.least ≤ n) (hgreatest : n ≤ Text.IntegerRange.uint64.greatest)
    (h : range.contains n = true) : Reader.integer range name (integer n) = .ok n := by
  rw [integer, Reader.integer, Number.integer?_ofInt hleast hgreatest]
  exact if_pos h

theorem int32_integer (n : Int32) : Reader.int32 (integer n.toInt) = .ok n := by
  obtain ⟨hleast, hgreatest⟩ := Text.IntegerRange.contains_iff.1 (Text.IntegerRange.contains_int32 n)
  rw [Reader.int32, integer_integer _ (le_trans (by decide) hleast)
    (le_trans hgreatest (by decide)) (Text.IntegerRange.contains_int32 n), Except.map, Int32.ofInt_toInt]

theorem uint16_integer (n : UInt16) : Reader.uint16 (integer n.toNat) = .ok n := by
  obtain ⟨hleast, hgreatest⟩ := Text.IntegerRange.contains_iff.1 (Text.IntegerRange.contains_uint16 n)
  rw [Reader.uint16, integer_integer _ (le_trans (by decide) hleast)
    (le_trans hgreatest (by decide)) (Text.IntegerRange.contains_uint16 n), Except.map, Int.toNat_natCast,
    UInt16.ofNat_toNat]

theorem read_ofCar (c : Car) : carRecord.read (ofCar c) = .ok c := by
  have hkeys : ["carId", "mark", "model", "owner", "regNum", "year"] ⊆ carRecord.fields := by decide
  refine carRecord.read_object
    ⟨some c.id, some c.regNum, some c.mark, some c.model, some c.year, some c.owner⟩ rfl ?_ hkeys
    (by decide) rfl
  simp only [Record.setAll, List.foldlM_cons, List.foldlM_nil, carRecord, int32_integer,
    uint16_integer, read_ofOwner]
  rfl

theorem read_ofCars (cars : List Car) :
    Reader.list carRecord.read (.array (cars.map ofCar)) = .ok cars := by
  have hmapM : (cars.map ofCar).mapM carRecord.read = .ok cars := by
    induction cars with
    | nil => rfl
    | cons c cars ih =>
      rw [List.map_cons, List.mapM_cons, read_ofCar, ih]
      rfl
  exact hmapM

/-! ## Patches -/

theorem sublist_present (key : String) (f : α → Tree) (value : Option α) :
    ((present key f value).map (·.1)).Sublist [key] := by
  cases value with
  | none => exact List.nil_sublist _
  | some a => exact .refl _

theorem read_ofOwnerPatch (p : OwnerPatch) : ownerPatchRecord.read (ofOwnerPatch p) = .ok p := by
  obtain ⟨name, surname, patronymic⟩ := p
  refine ownerPatchRecord.read_object_of_sublist _ rfl ?_ (by decide) ?_
  · rw [List.append_assoc, ← List.append_nil (present "patronymic" _ _)]
    refine (ownerPatchRecord.setAll_present (fun name => ⟨name, none, none⟩)
      (fun _ => rfl) name _).trans ?_
    refine (ownerPatchRecord.setAll_present (fun surname => ⟨name, surname, none⟩)
      (fun _ => rfl) surname _).trans ?_
    exact ownerPatchRecord.setAll_present (fun patronymic => ⟨name, surname, patronymic⟩)
      (fun _ => rfl) patronymic []
  · rw [List.map_append, List.map_append]
    exact ((sublist_present ..).append (sublist_present ..)).append (sublist_present ..)

/-- A field that is absent has no member, and reading leaves it absent. -/
theorem read_ofPatch (p : CarPatch) : patchRecord.read (ofPatch p) = .ok p := by
  obtain ⟨regNum, mark, model, year, owner⟩ := p
  have hyear (y : UInt16) : patchRecord.set "year" (integer y.toNat)
      ⟨regNum, mark, model, none, none⟩ = .ok ⟨regNum, mark, model, some y, none⟩ :=
    bind_eq_ok_iff.2 ⟨some y, map_eq_ok_iff.2 ⟨y, uint16_integer y, rfl⟩, rfl⟩
  have howner (o : OwnerPatch) : patchRecord.set "owner" (ofOwnerPatch o)
      ⟨regNum, mark, model, year, none⟩ = .ok ⟨regNum, mark, model, year, some o⟩ :=
    bind_eq_ok_iff.2 ⟨some o, map_eq_ok_iff.2 ⟨o, read_ofOwnerPatch o, rfl⟩, rfl⟩
  refine patchRecord.read_object_of_sublist _ rfl ?_ (by decide) ?_
  · rw [List.append_assoc, List.append_assoc, List.append_assoc,
      ← List.append_nil (present "owner" _ _)]
    refine (patchRecord.setAll_present (fun regNum => ⟨regNum, none, none, none, none⟩)
      (fun _ => rfl) regNum _).trans ?_
    refine (patchRecord.setAll_present (fun mark => ⟨regNum, mark, none, none, none⟩)
      (fun _ => rfl) mark _).trans ?_
    refine (patchRecord.setAll_present (fun model => ⟨regNum, mark, model, none, none⟩)
      (fun _ => rfl) model _).trans ?_
    refine (patchRecord.setAll_present (fun year => ⟨regNum, mark, model, year, none⟩)
      hyear year _).trans ?_
    exact patchRecord.setAll_present (fun owner => ⟨regNum, mark, model, year, owner⟩)
      howner owner []
  · rw [List.map_append, List.map_append, List.map_append, List.map_append]
    exact ((((sublist_present ..).append (sublist_present ..)).append (sublist_present ..)).append
      (sublist_present ..)).append (sublist_present ..)

def Tree.members : Tree → List (Option String × Tree)
  | .object members => members
  | _ => []

theorem mem_members_object {members : List (String × Tree)} {key : String} {value : Tree} :
    (some key, value) ∈ (object members).members ↔ (key, value) ∈ members := by
  rw [object, Tree.members, List.mem_map]
  constructor
  · rintro ⟨m, hm, ⟨⟩⟩
    exact hm
  · exact fun h => ⟨_, h, rfl⟩

/-- The names of the fields that a patch sets. An owner counts also when it sets nothing itself. -/
def presentFields (p : CarPatch) : List String :=
  ([("regNum", p.regNum.isSome), ("mark", p.mark.isSome), ("model", p.model.isSome),
    ("year", p.year.isSome), ("owner", p.owner.isSome)].filter (·.2)).map (·.1)

theorem keys_ofPatch (p : CarPatch) :
    (ofPatch p).members.map (·.1) = (presentFields p).map some := by
  obtain ⟨_ | _, _ | _, _ | _, _ | _, _ | _⟩ := p <;> rfl

theorem ofOwnerPatch_eq_empty_iff (p : OwnerPatch) : ofOwnerPatch p = object [] ↔ p = {} := by
  obtain ⟨_ | _, _ | _, _ | _⟩ := p <;> simp [ofOwnerPatch, object, present]

theorem mem_present {key : String} {f : α → Tree} {value : Option α} {m : String × Tree} :
    m ∈ present key f value ↔ ∃ a, value = some a ∧ m = (key, f a) := by
  cases value with
  | none => exact ⟨nofun, by rintro ⟨_, ⟨⟩, _⟩⟩
  | some a => simp [present]

/-- An owner that sets nothing is written as an object without members. -/
theorem empty_owner_mem_iff (p : CarPatch) :
    (some "owner", object []) ∈ (ofPatch p).members ↔ p.owner = some {} := by
  have hmem : (some "owner", object []) ∈ (ofPatch p).members ↔
      ∃ o, p.owner = some o ∧ object [] = ofOwnerPatch o := by
    simp [ofPatch, mem_members_object, mem_present]
  rw [hmem]
  constructor
  · rintro ⟨o, ho, hempty⟩
    rw [ho, (ofOwnerPatch_eq_empty_iff o).1 hempty.symm]
  · exact fun ho => ⟨{}, ho, rfl⟩

/-! ## The order of members -/

theorem orderless_ownerRecord : ownerRecord.Orderless where
  stable := by
    refine List.forall_mem_cons.2 ⟨fun _ => Reader.stable_string.map _, ?_⟩
    refine List.forall_mem_cons.2 ⟨fun _ => Reader.stable_string.map _, ?_⟩
    exact List.forall_mem_singleton.2 fun _ => Reader.stable_string.map _
  commutes := by
    intro f hf g hg hne t u draft d d' hset hnext
    simp only [ownerRecord, List.mem_cons, List.not_mem_nil, or_false] at hf hg
    rcases hf with rfl | rfl | rfl <;> rcases hg with rfl | rfl | rfl
    all_goals first | exact absurd rfl hne | skip
    all_goals
      obtain ⟨a, ha, ⟨⟩⟩ := bind_eq_ok_iff.1 hset
      obtain ⟨b, hb, ⟨⟩⟩ := bind_eq_ok_iff.1 hnext
      exact ⟨_, bind_eq_ok_iff.2 ⟨b, hb, rfl⟩, bind_eq_ok_iff.2 ⟨a, ha, rfl⟩⟩

theorem orderless_carRecord : carRecord.Orderless where
  stable := by
    refine List.forall_mem_cons.2 ⟨fun _ => Reader.stable_int32.map _, ?_⟩
    refine List.forall_mem_cons.2 ⟨fun _ => Reader.stable_string.map _, ?_⟩
    refine List.forall_mem_cons.2 ⟨fun _ => Reader.stable_string.map _, ?_⟩
    refine List.forall_mem_cons.2 ⟨fun _ => Reader.stable_string.map _, ?_⟩
    refine List.forall_mem_cons.2 ⟨fun _ => Reader.stable_uint16.map _, ?_⟩
    exact List.forall_mem_singleton.2 fun _ => orderless_ownerRecord.stable_read.map _
  commutes := by
    intro f hf g hg hne t u draft d d' hset hnext
    simp only [carRecord, List.mem_cons, List.not_mem_nil, or_false] at hf hg
    rcases hf with rfl | rfl | rfl | rfl | rfl | rfl <;>
      rcases hg with rfl | rfl | rfl | rfl | rfl | rfl
    all_goals first | exact absurd rfl hne | skip
    all_goals
      obtain ⟨a, ha, ⟨⟩⟩ := bind_eq_ok_iff.1 hset
      obtain ⟨b, hb, ⟨⟩⟩ := bind_eq_ok_iff.1 hnext
      exact ⟨_, bind_eq_ok_iff.2 ⟨b, hb, rfl⟩, bind_eq_ok_iff.2 ⟨a, ha, rfl⟩⟩

theorem orderless_ownerPatchRecord : ownerPatchRecord.Orderless where
  stable := by
    refine List.forall_mem_cons.2 ⟨fun _ => Reader.stable_string.optional.map _, ?_⟩
    refine List.forall_mem_cons.2 ⟨fun _ => Reader.stable_string.optional.map _, ?_⟩
    exact List.forall_mem_singleton.2 fun _ => Reader.stable_string.optional.map _
  commutes := by
    intro f hf g hg hne t u draft d d' hset hnext
    simp only [ownerPatchRecord, List.mem_cons, List.not_mem_nil, or_false] at hf hg
    rcases hf with rfl | rfl | rfl <;> rcases hg with rfl | rfl | rfl
    all_goals first | exact absurd rfl hne | skip
    all_goals
      obtain ⟨a, ha, ⟨⟩⟩ := bind_eq_ok_iff.1 hset
      obtain ⟨b, hb, ⟨⟩⟩ := bind_eq_ok_iff.1 hnext
      exact ⟨_, bind_eq_ok_iff.2 ⟨b, hb, rfl⟩, bind_eq_ok_iff.2 ⟨a, ha, rfl⟩⟩

/-- The fields of a patch are set independently of each other. -/
theorem orderless_patchRecord : patchRecord.Orderless where
  stable := by
    refine List.forall_mem_cons.2 ⟨fun _ => Reader.stable_string.optional.map _, ?_⟩
    refine List.forall_mem_cons.2 ⟨fun _ => Reader.stable_string.optional.map _, ?_⟩
    refine List.forall_mem_cons.2 ⟨fun _ => Reader.stable_string.optional.map _, ?_⟩
    refine List.forall_mem_cons.2 ⟨fun _ => Reader.stable_uint16.optional.map _, ?_⟩
    exact List.forall_mem_singleton.2 fun _ => orderless_ownerPatchRecord.stable_read.optional.map _
  commutes := by
    intro f hf g hg hne t u draft d d' hset hnext
    simp only [patchRecord, List.mem_cons, List.not_mem_nil, or_false] at hf hg
    rcases hf with rfl | rfl | rfl | rfl | rfl <;> rcases hg with rfl | rfl | rfl | rfl | rfl
    all_goals first | exact absurd rfl hne | skip
    all_goals
      obtain ⟨a, ha, ⟨⟩⟩ := bind_eq_ok_iff.1 hset
      obtain ⟨b, hb, ⟨⟩⟩ := bind_eq_ok_iff.1 hnext
      exact ⟨_, bind_eq_ok_iff.2 ⟨b, hb, rfl⟩, bind_eq_ok_iff.2 ⟨a, ha, rfl⟩⟩

/-! ## Limits -/

theorem fits_text (depth : Nat) (s : String) : (text s).Fits depth := rfl

theorem fits_integer (depth : Nat) {n : Int} (hleast : Text.IntegerRange.int64.least ≤ n)
    (hgreatest : n ≤ Text.IntegerRange.uint64.greatest) : (integer n).Fits depth := by
  refine ⟨nofun, ?_⟩
  rw [Number.isFinite, Number.integer?_ofInt hleast hgreatest]
  rfl

theorem fits_int32 (depth : Nat) (n : Int32) : (integer n.toInt).Fits depth := by
  obtain ⟨hleast, hgreatest⟩ := Text.IntegerRange.contains_iff.1 (Text.IntegerRange.contains_int32 n)
  exact fits_integer depth (le_trans (by decide) hleast) (le_trans hgreatest (by decide))

theorem fits_uint16 (depth : Nat) (n : UInt16) : (integer n.toNat).Fits depth := by
  obtain ⟨hleast, hgreatest⟩ := Text.IntegerRange.contains_iff.1 (Text.IntegerRange.contains_uint16 n)
  exact fits_integer depth (le_trans (by decide) hleast) (le_trans hgreatest (by decide))

theorem fits_object {depth : Nat} (hdepth : depth < maxNesting) {members : List (String × Tree)}
    (h : ∀ m ∈ members, m.2.Fits (depth + 1)) : (object members).Fits depth := by
  refine ⟨hdepth, Tree.membersFit_iff.2 ?_⟩
  rw [List.forall_mem_map]
  exact fun m hm => ⟨rfl, h m hm⟩

theorem fits_ofOwner {depth : Nat} (hdepth : depth < maxNesting) (o : Owner) :
    (ofOwner o).Fits depth := by
  refine fits_object hdepth ?_
  exact List.forall_mem_cons.2 ⟨fits_text .., List.forall_mem_cons.2 ⟨fits_text ..,
    List.forall_mem_singleton.2 (fits_text ..)⟩⟩

theorem fits_ofCar {depth : Nat} (hdepth : depth + 1 < maxNesting) (c : Car) :
    (ofCar c).Fits depth := by
  refine fits_object (by omega) ?_
  simp only [List.forall_mem_cons, List.not_mem_nil, false_implies, implies_true, and_true]
  exact ⟨fits_int32 .., fits_text .., fits_text .., fits_ofOwner hdepth c.owner, fits_text ..,
    fits_uint16 ..⟩

theorem fits_present {depth : Nat} {key : String} {f : α → Tree} (h : ∀ a, (f a).Fits depth)
    (value : Option α) : ∀ m ∈ present key f value, m.2.Fits depth := by
  cases value with
  | none => nofun
  | some a => exact List.forall_mem_singleton.2 (h a)

theorem fits_ofOwnerPatch {depth : Nat} (hdepth : depth < maxNesting) (p : OwnerPatch) :
    (ofOwnerPatch p).Fits depth := by
  refine fits_object hdepth ?_
  simp only [List.forall_mem_append]
  exact ⟨⟨fits_present (fits_text _) _, fits_present (fits_text _) _⟩, fits_present (fits_text _) _⟩

theorem fits_ofPatch {depth : Nat} (hdepth : depth + 1 < maxNesting) (p : CarPatch) :
    (ofPatch p).Fits depth := by
  refine fits_object (by omega) ?_
  simp only [List.forall_mem_append]
  exact ⟨⟨⟨⟨fits_present (fits_text _) _, fits_present (fits_text _) _⟩,
    fits_present (fits_text _) _⟩, fits_present (fits_uint16 _) _⟩,
    fits_present (fits_ofOwnerPatch hdepth) _⟩

end VehicleRecords.Json
