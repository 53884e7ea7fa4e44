import VehicleRecords.Proofs.Sql.Numbering

namespace VehicleRecords

def Pagination.clamp (n : UInt64) : UInt64 :=
  if n.toNat < 9223372036854775808 then n else 9223372036854775807

/-- A closed window has no offset, and no bound exceeds the greatest one. -/
def Pagination.canonical (p : Pagination) : Pagination :=
  if p.limit = 0 then {} else ⟨clamp p.limit, clamp p.offset⟩

def Filter.canonical : Filter → Filter
  | [] => []
  | first :: rest => { first with connective := .and } :: rest

def CarPatch.canonical (p : CarPatch) : CarPatch :=
  { p with owner := p.owner.filter (!·.isEmpty) }

theorem Pagination.clamp_toNat (n : UInt64) :
    (clamp n).toNat = min n.toNat 9223372036854775807 := by
  unfold clamp
  split
  · next h => rw [Nat.min_eq_left (by omega)]
  · next h =>
    rw [Nat.min_eq_right (by omega)]
    rfl

theorem Pagination.clamp_clamp (n : UInt64) : clamp (clamp n) = clamp n := by
  rw [← UInt64.toNat_inj, clamp_toNat, clamp_toNat]
  omega

theorem Value.ofUInt64_inj (m n : UInt64) :
    Value.ofUInt64 m = Value.ofUInt64 n ↔ Pagination.clamp m = Pagination.clamp n := by
  rw [Value.ofUInt64_eq, Value.ofUInt64_eq, Value.int.injEq, ← UInt64.toNat_inj,
    Pagination.clamp_toNat, Pagination.clamp_toNat]
  constructor
  · intro h
    have hn := congrArg Int64.toNatClampNeg h
    rwa [Int64.toNatClampNeg_ofNat_of_lt (by omega), Int64.toNatClampNeg_ofNat_of_lt (by omega)]
      at hn
  · intro h
    rw [h]

theorem Pagination.clamp_eq_zero_iff (n : UInt64) : clamp n = 0 ↔ n = 0 := by
  rw [← UInt64.toNat_inj, ← UInt64.toNat_inj, clamp_toNat]
  change min n.toNat 9223372036854775807 = 0 ↔ n.toNat = 0
  omega

theorem CarPatch.mem_assignments (p : CarPatch) (c : Column) (v : Value) :
    (c, v) ∈ p.assignments ↔ p.value? c = some v := by
  simp only [assignments, List.mem_filterMap, Option.map_eq_some_iff, Prod.mk.injEq]
  constructor
  · rintro ⟨c', _, v', hv, rfl, rfl⟩
    exact hv
  · intro h
    exact ⟨c, c.mem_all, v, h, rfl, rfl⟩

theorem Value.ofUInt16_inj (m n : UInt16) (h : Value.ofUInt16 m = Value.ofUInt16 n) : m = n := by
  have hn := congrArg Int64.toNatClampNeg (Value.int.inj h)
  have hm := m.toNat_lt
  have hn' := n.toNat_lt
  rw [Int64.toNatClampNeg_ofNat_of_lt (by omega), Int64.toNatClampNeg_ofNat_of_lt (by omega)] at hn
  exact UInt16.toNat_inj.mp hn

/-- An owner patch, up to the difference between none and one without fields. -/
theorem OwnerPatch.filter_eq (o o' : Option OwnerPatch)
    (hn : o.bind (·.name) = o'.bind (·.name)) (hs : o.bind (·.surname) = o'.bind (·.surname))
    (hp : o.bind (·.patronymic) = o'.bind (·.patronymic)) :
    o.filter (!·.isEmpty) = o'.filter (!·.isEmpty) := by
  have hempty (a : OwnerPatch) (hn : a.name = none) (hs : a.surname = none)
      (hp : a.patronymic = none) : a.isEmpty = true := by
    simp only [isEmpty, hn, hs, hp]
    rfl
  cases o with
  | none =>
    cases o' with
    | none => rfl
    | some b => simp [Option.filter, hempty b hn.symm hs.symm hp.symm]
  | some a =>
    cases o' with
    | none => simp [Option.filter, hempty a hn hs hp]
    | some b =>
      obtain ⟨_, _, _⟩ := a
      obtain ⟨_, _, _⟩ := b
      cases hn
      cases hs
      cases hp
      rfl

/-- The values a patch sets determine it up to an owner without fields. -/
theorem CarPatch.canonical_of_value (p q : CarPatch) (h : ∀ c, p.value? c = q.value? c) :
    p.canonical = q.canonical := by
  have htext (a b : Option String) (hab : a.map Value.text = b.map Value.text) : a = b :=
    (Option.map_inj_right fun _ _ => Value.text.inj).mp hab
  have hyear := (Option.map_inj_right Value.ofUInt16_inj).mp (h .year)
  have howner := OwnerPatch.filter_eq p.owner q.owner (htext _ _ (h .ownerName))
    (htext _ _ (h .ownerSurname)) (htext _ _ (h .ownerPatronymic))
  simp only [canonical, htext _ _ (h .regNum), htext _ _ (h .mark), htext _ _ (h .model), hyear,
    howner]

theorem CarPatch.value_canonical (p : CarPatch) (c : Column) :
    p.canonical.value? c = p.value? c := by
  have hfield (f : OwnerPatch → Option String) (hf : ∀ a, a.isEmpty = true → f a = none) :
      (p.owner.filter (!·.isEmpty)).bind f = p.owner.bind f := by
    cases p.owner with
    | none => rfl
    | some a =>
      cases ha : a.isEmpty with
      | false => simp [Option.filter, ha]
      | true => simp [Option.filter, ha, hf a ha]
  have hempty (a : OwnerPatch) (ha : a.isEmpty = true) :
      a.name = none ∧ a.surname = none ∧ a.patronymic = none := by
    simp only [OwnerPatch.isEmpty, Bool.and_eq_true, Option.isNone_iff_eq_none] at ha
    exact ⟨ha.1.1, ha.1.2, ha.2⟩
  cases c with
  | ownerName =>
    exact congrArg (Option.map Value.text) (hfield (·.name) fun a ha => (hempty a ha).1)
  | ownerSurname =>
    exact congrArg (Option.map Value.text) (hfield (·.surname) fun a ha => (hempty a ha).2.1)
  | ownerPatronymic =>
    exact congrArg (Option.map Value.text) (hfield (·.patronymic) fun a ha => (hempty a ha).2.2)
  | _ => rfl

/-- The column values of a record determine it up to its id. -/
theorem Car.eq_of_value (a b : Car) (h : ∀ c, a.value c = b.value c) :
    ({ a with id := 0 } : Car) = { b with id := 0 } := by
  have howner : a.owner = b.owner := by
    obtain ⟨_, _, _, _, _, _, _, _⟩ := a
    obtain ⟨_, _, _, _, _, _, _, _⟩ := b
    cases Value.text.inj (h .ownerName)
    cases Value.text.inj (h .ownerSurname)
    cases Value.text.inj (h .ownerPatronymic)
    rfl
  rw [Value.text.inj (h .regNum), Value.text.inj (h .mark), Value.text.inj (h .model),
    Value.ofUInt16_inj _ _ (h .year), howner]

namespace Sql

open Fragment

/-- The statement without what its text and parameters leave out: the connective of a first
condition, the offset of a closed window, the excess of bounds beyond the signed range, the ids of
records to insert, and an owner patch without fields. -/
def Statement.canonical : Statement → Statement
  | run (.query filter page) => run (.query filter.canonical page.canonical)
  | run (.insert cars) => run (.insert (cars.map fun car => { car with id := 0 }))
  | run (.updateById id patch) => run (.updateById id patch.canonical)
  | stmt => stmt

theorem canonical_pagination (p : Pagination) :
    paginationFragments p.canonical = paginationFragments p := by
  have hv (n : UInt64) : Value.ofUInt64 (Pagination.clamp n) = Value.ofUInt64 n :=
    (Value.ofUInt64_inj _ _).mpr (Pagination.clamp_clamp n)
  rw [paginationFragments_eq, paginationFragments_eq, Pagination.canonical]
  split
  · rfl
  · next h => simp only [Pagination.clamp_eq_zero_iff, h, if_false, hv]

/-- Nothing that the canonical form leaves out is written. -/
theorem canonical_fragments (table : String) (stmt : Statement) :
    stmt.canonical.fragments table = stmt.fragments table := by
  cases stmt with
  | createTable _ => rfl
  | dropTable _ => rfl
  | run op =>
    cases op with
    | deleteById id => rfl
    | getById id => rfl
    | insert cars =>
      simp only [Statement.canonical, Statement.fragments, List.map_map]
      rfl
    | query filter page =>
      have hf : filterFragments filter.canonical = filterFragments filter := by
        cases filter <;> rfl
      simp only [Statement.canonical, Statement.fragments, hf, canonical_pagination]
    | updateById id patch =>
      have ha : patch.canonical.assignments = patch.assignments := by
        simp only [CarPatch.assignments, CarPatch.value_canonical]
      simp only [Statement.canonical, Statement.fragments, ha]

theorem canonical_verify (stmt : Statement) : stmt.canonical.verify = stmt.verify := by
  cases stmt with
  | createTable _ => rfl
  | dropTable _ => rfl
  | run op =>
    cases op with
    | deleteById id => rfl
    | getById id => rfl
    | query filter page => rfl
    | insert cars => cases cars <;> rfl
    | updateById id patch =>
      have he : patch.canonical.isEmpty = patch.isEmpty := by
        rw [Bool.eq_iff_iff, CarPatch.isEmpty_iff, CarPatch.isEmpty_iff]
        simp only [CarPatch.value_canonical]
      simp only [Statement.canonical, Statement.verify, he]

/-- What the canonical form leaves out shows neither in the text nor in the parameters. -/
theorem compile_canonical (table : String) (before : List Value) (stmt : Statement) :
    compile table before stmt.canonical = compile table before stmt := by
  unfold compile
  rw [canonical_verify, canonical_fragments]

end Sql

end VehicleRecords
