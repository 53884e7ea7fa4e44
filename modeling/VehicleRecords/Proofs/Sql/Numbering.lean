import Mathlib.Data.List.Basic
import VehicleRecords.Proofs.Sql.Reading

namespace VehicleRecords

/-- A patch is empty when it sets no column. -/
theorem CarPatch.isEmpty_iff (p : CarPatch) : p.isEmpty = true ↔ ∀ c, p.value? c = none := by
  constructor
  · intro h c
    simp only [isEmpty, OwnerPatch.isEmpty, Option.all_eq_true, Bool.and_eq_true,
      Option.isNone_iff_eq_none] at h
    obtain ⟨⟨⟨⟨hr, hm⟩, hd⟩, hy⟩, ho⟩ := h
    cases hown : p.owner with
    | none => cases c <;> simp [value?, ownerName, ownerSurname, ownerPatronymic, *]
    | some o =>
      obtain ⟨⟨hn, hs⟩, hp⟩ := ho o hown
      cases c <;> simp [value?, ownerName, ownerSurname, ownerPatronymic, *]
  · intro h
    have hr := h .regNum
    have hm := h .mark
    have hd := h .model
    have hy := h .year
    have hn := h .ownerName
    have hs := h .ownerSurname
    have hp := h .ownerPatronymic
    simp only [value?, Option.map_eq_none_iff, ownerName, ownerSurname, ownerPatronymic,
      Option.bind_eq_none_iff] at hr hm hd hy hn hs hp
    simp only [isEmpty, OwnerPatch.isEmpty, Option.all_eq_true, Bool.and_eq_true,
      Option.isNone_iff_eq_none]
    exact ⟨⟨⟨⟨hr, hm⟩, hd⟩, hy⟩, fun o ho => ⟨⟨hn o ho, hs o ho⟩, hp o ho⟩⟩

theorem CarPatch.isEmpty_eq_false_iff (p : CarPatch) :
    p.isEmpty = false ↔ ∃ c, p.value? c ≠ none := by
  rw [← Bool.not_eq_true, p.isEmpty_iff, Classical.not_forall]

theorem CarPatch.assignments_values (p : CarPatch) :
    p.assignments.map Prod.snd = Column.all.filterMap p.value? := by
  rw [assignments, List.map_filterMap]
  congr 1
  funext c
  cases p.value? c <;> rfl

/-- The values that a patch sets are the fields it holds, those of the owner last. -/
theorem CarPatch.filterMap_value? (p : CarPatch) :
    Column.all.filterMap p.value? =
      (p.regNum.toList ++ p.mark.toList ++ p.model.toList).map .text ++
        p.year.toList.map (fun year => .int (Int64.ofNat year.toNat)) ++
        (p.owner.toList.flatMap fun owner =>
          owner.name.toList ++ owner.surname.toList ++ owner.patronymic.toList).map .text := by
  have howner : p.ownerName.toList ++ p.ownerSurname.toList ++ p.ownerPatronymic.toList =
      p.owner.toList.flatMap fun owner =>
        owner.name.toList ++ owner.surname.toList ++ owner.patronymic.toList := by
    rw [ownerName, ownerSurname, ownerPatronymic]
    cases p.owner with
    | none => rfl
    | some owner =>
      rw [Option.toList_some, List.flatMap_singleton]
      rfl
  rw [List.filterMap_eq_flatMap_toList, ← howner]
  simp only [Column.all, value?, List.flatMap_cons, List.flatMap_nil, Option.toList_map,
    List.map_append, List.append_assoc, List.append_nil]
  rfl

/-- A bound of a window reaches the store as itself, up to the greatest signed integer. -/
theorem Value.ofUInt64_eq (n : UInt64) :
    Value.ofUInt64 n = .int (Int64.ofNat (min n.toNat 9223372036854775807)) := by
  unfold Value.ofUInt64
  split
  · next h =>
    rw [Nat.min_eq_left (by omega), ← UInt64.toInt64_ofNat', UInt64.ofNat_toNat]
  · next h =>
    rw [Nat.min_eq_right (by omega)]
    rfl

namespace Sql

open Fragment

/-- The values of a statement: of a filter in its order and then of the window, of a patch in column
order and then the id, of a batch row by row in column order. -/
def Statement.boundValues : Statement → List Value
  | createTable _ | dropTable _ => []
  | run (.deleteById id) | run (.getById id) => [.int id]
  | run (.insert cars) => cars.flatMap fun car => Column.all.map car.value
  | run (.query filter pagination) =>
    filter.map (.text ·.value) ++
      if pagination.limit = 0 then []
      else [.ofUInt64 pagination.limit, .ofUInt64 pagination.offset]
  | run (.updateById id patch) => Column.all.filterMap patch.value? ++ [.int id]

/-- What an insertion binds, field by field. -/
theorem boundValues_insert (cars : List Car) :
    (Statement.run (.insert cars)).boundValues = cars.flatMap fun car =>
      [.text car.regNum, .text car.mark, .text car.model, .int (Int64.ofNat car.year.toNat),
        .text car.owner.name, .text car.owner.surname, .text car.owner.patronymic] := rfl

/-- What an update binds: the fields that its patch holds, and the id. -/
theorem boundValues_updateById (id : Int64) (patch : CarPatch) :
    (Statement.run (.updateById id patch)).boundValues =
      (patch.regNum.toList ++ patch.mark.toList ++ patch.model.toList).map .text ++
        patch.year.toList.map (fun year => .int (Int64.ofNat year.toNat)) ++
        (patch.owner.toList.flatMap fun owner =>
          owner.name.toList ++ owner.surname.toList ++ owner.patronymic.toList).map .text ++
        [.int id] := by
  rw [Statement.boundValues, patch.filterMap_value?]

/-- The statement has nothing to write: an update of no column or an insert of no record. -/
def Statement.Vacant : Statement → Prop
  | run (.updateById _ patch) => ∀ column, patch.value? column = none
  | run (.insert cars) => cars = []
  | _ => False

/-- Writes one more fragment. A bound value joins the parameters and is named by their number. -/
def Compiled.push (c : Compiled) : Fragment → Compiled
  | .word w => { c with sql := c.sql ++ w }
  | .name n => { c with sql := c.sql ++ quoteName n }
  | .bind v =>
    let params := c.params ++ [v]
    ⟨c.sql ++ placeholder params.length, params⟩

/-- Compiles a statement onto the parameters of the statements before it. What the list is afterwards
is said for a refused statement too. -/
def serialize (table : String) (stmt : Statement) (params : List Value) :
    Except Error String × List Value :=
  match stmt.verify with
  | .error e => (.error e, params)
  | .ok () =>
    let c := (stmt.fragments table ++ [word ";"]).foldl Compiled.push ⟨"", params⟩
    (.ok c.sql, c.params)

theorem foldl_push (c : Compiled) (fs : List Fragment) :
    fs.foldl Compiled.push c = ⟨writeOnto c.sql c.params.length fs, c.params ++ values fs⟩ := by
  induction fs generalizing c with
  | nil => simp [writeOnto, values]
  | cons f fs ih =>
    rw [List.foldl_cons, ih]
    cases f with
    | word w => rfl
    | name n => rfl
    | bind v =>
      simp only [Compiled.push, writeOnto, values_bind, List.length_append, List.length_singleton,
        List.append_assoc, List.singleton_append]

/-- Compiling onto a parameter list is compiling behind it. -/
theorem serialize_eq (table : String) (stmt : Statement) (before : List Value) :
    serialize table stmt before =
      match compile table before stmt with
      | .error e => (.error e, before)
      | .ok c => (.ok c.sql, c.params) := by
  unfold serialize compile
  cases stmt.verify with
  | error e => rfl
  | ok _ => simp only [foldl_push, write]

/-- A statement is refused when it has nothing to write. -/
theorem verify_error_iff (stmt : Statement) : (∃ e, stmt.verify = .error e) ↔ stmt.Vacant := by
  cases stmt with
  | createTable _ => simp [Statement.verify, Statement.Vacant]
  | dropTable _ => simp [Statement.verify, Statement.Vacant]
  | run op =>
    cases op with
    | updateById id patch =>
      have h := patch.isEmpty_iff
      cases he : patch.isEmpty <;> simp_all [Statement.verify, Statement.Vacant]
    | insert cars => cases cars <;> simp [Statement.verify, Statement.Vacant]
    | _ => simp [Statement.verify, Statement.Vacant]

theorem verify_insert {cars : List Car} (h : cars ≠ []) :
    Statement.verify (.run (.insert cars)) = .ok () := by
  cases cars with
  | nil => exact absurd rfl h
  | cons car cars => rfl

theorem vacant_of_compile (table : String) (before : List Value) (stmt : Statement) (e : Error)
    (h : compile table before stmt = .error e) : stmt.Vacant := by
  unfold compile at h
  split at h
  · next e' he => exact (verify_error_iff stmt).mp ⟨e', he⟩
  · cases h

theorem not_vacant_of_compile (table : String) (before : List Value) (stmt : Statement)
    (c : Compiled) (h : compile table before stmt = .ok c) : ¬ stmt.Vacant := by
  intro hvac
  obtain ⟨e, he⟩ := (verify_error_iff stmt).mpr hvac
  unfold compile at h
  rw [he] at h
  cases h

theorem values_word (w : String) (fs : List Fragment) : values (word w :: fs) = values fs := rfl

theorem values_name (n : String) (fs : List Fragment) : values (name n :: fs) = values fs := rfl

theorem values_append (fs gs : List Fragment) : values (fs ++ gs) = values fs ++ values gs :=
  List.filterMap_append

theorem values_commaSeparated (gs : List (List Fragment)) :
    values (commaSeparated gs) = gs.flatMap values := by
  induction gs with
  | nil => rfl
  | cons g gs ih =>
    cases gs with
    | nil => simp [commaSeparated_singleton]
    | cons g' gs =>
      rw [commaSeparated_cons, values_append, values_word, ih]
      rfl

theorem values_filter (filter : Filter) :
    values (filterFragments filter) = filter.map (.text ·.value) := by
  have hj (rest : List Predicate) :
      values (rest.flatMap joinedPredicate) = rest.map (.text ·.value) := by
    induction rest with
    | nil => rfl
    | cons p rest ih =>
      rw [List.flatMap_cons, values_append, ih]
      rfl
  cases filter with
  | nil => rfl
  | cons first rest =>
    have hv : values (filterFragments (first :: rest)) =
        .text first.value :: values (rest.flatMap joinedPredicate) := rfl
    rw [hv, hj]
    rfl

theorem values_pagination (p : Pagination) :
    values (paginationFragments p) =
      if p.limit = 0 then [] else [.ofUInt64 p.limit, .ofUInt64 p.offset] := by
  rw [paginationFragments_eq]
  split <;> rfl

theorem values_assignments (patch : CarPatch) :
    values (commaSeparated (patch.assignments.map assignmentFragments)) =
      Column.all.filterMap patch.value? := by
  have hv (as : List (Column × Value)) :
      as.flatMap (fun a => values (assignmentFragments a)) = as.map Prod.snd := by
    induction as with
    | nil => rfl
    | cons a as ih =>
      rw [List.flatMap_cons, ih]
      rfl
  rw [values_commaSeparated, List.flatMap_map, hv, patch.assignments_values]

/-- The values that the fragments of a statement bind, in order. -/
theorem values_fragments (table : String) (stmt : Statement) :
    values (stmt.fragments table ++ [word ";"]) = stmt.boundValues := by
  have hend : values [word ";"] = [] := rfl
  rw [values_append, hend, List.append_nil]
  cases stmt with
  | createTable ifNotExists => cases ifNotExists <;> rfl
  | dropTable ifExists => rfl
  | run op =>
    cases op with
    | deleteById id => rfl
    | getById id => rfl
    | insert cars =>
      have hcolumns : values columnList = [] := rfl
      have hconflict : values [word " ON CONFLICT (", name Column.regNum.name,
        word ") DO NOTHING"] = [] := rfl
      simp only [Statement.fragments, values_append, values_word, values_name, hcolumns, hconflict,
        values_commaSeparated, List.flatMap_map, List.nil_append, List.append_nil]
      rfl
    | query filter pagination =>
      have hcolumns : values rowColumns = [] := rfl
      simp only [Statement.fragments, values_append, values_word, values_name, hcolumns,
        values_filter, values_pagination, List.nil_append]
      rfl
    | updateById id patch =>
      have hv : values (Statement.fragments table (.run (.updateById id patch))) =
          values (commaSeparated (patch.assignments.map assignmentFragments)) ++ [.int id] :=
        values_append _ (idCondition id)
      rw [hv, values_assignments]
      rfl

/-- Bound values are numbered in the order in which they are written. -/
theorem placeholders_write (bound : Nat) (fs : List Fragment) (h : Legible fs) :
    placeholders (write bound fs) = List.range' (bound + 1) (values fs).length := by
  have hn : (numbered bound fs).filterMap (Token.param? ∘ Token.map Prod.fst) =
      List.range' (bound + 1) (values fs).length := by
    clear h
    induction fs generalizing bound with
    | nil => rfl
    | cons f fs ih =>
      cases f with
      | word w =>
        -- Symbols have no number; only a bound value takes the next one.
        have hw : (w.toList.map (Token.symbol (α := Nat × Value))).filterMap
            (Token.param? ∘ Token.map Prod.fst) = [] :=
          List.filterMap_eq_nil_iff.mpr fun t ht => by
            obtain ⟨c, _, rfl⟩ := List.mem_map.mp ht
            rfl
        rw [numbered, List.filterMap_append, hw, ih bound]
        rfl
      | name n => exact ih bound
      | bind v => exact congrArg ((bound + 1) :: ·) (ih (bound + 1))
  rw [placeholders, tokens_write bound fs h, List.filterMap_map, hn]

/-- Placeholders are numbered without gap from the first free number on, and the k-th one stands for
the k-th value of the statement: the text is read as the fragments of the statement, each of their
values at the placeholder written for it. Only a vacant statement is refused, and then the parameters
are as they were. -/
theorem serialize_numbers_parameters (table : String) (stmt : Statement) (before : List Value) :
    match serialize table stmt before with
    | (.ok sql, after) =>
      ¬ stmt.Vacant ∧ compile table before stmt = .ok ⟨sql, after⟩ ∧
      after = before ++ stmt.boundValues ∧
      placeholders sql = List.range' (before.length + 1) stmt.boundValues.length ∧
      Compiled.read ⟨sql, after⟩ =
        some (numbered before.length (stmt.fragments table ++ [word ";"]))
    | (.error e, after) =>
      stmt.Vacant ∧ compile table before stmt = .error e ∧ after = before := by
  rw [serialize_eq]
  cases hc : compile table before stmt with
  | error e => exact ⟨vacant_of_compile table before stmt e hc, rfl, rfl⟩
  | ok c =>
    have hvac := not_vacant_of_compile table before stmt c hc
    have hread := read_compile table before stmt c hc
    unfold compile at hc
    split at hc
    · cases hc
    · cases hc
      refine ⟨hvac, rfl, ?_, ?_, hread⟩
      · rw [values_fragments]
      · rw [placeholders_write _ _ (legible_fragments table stmt), values_fragments]

end Sql

end VehicleRecords
