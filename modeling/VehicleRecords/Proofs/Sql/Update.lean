import Mathlib.Data.List.Nodup
import Mathlib.Logic.Function.Basic
import VehicleRecords.Proofs.Sql.Listing
import VehicleRecords.Proofs.Sql.Shape
import VehicleRecords.Proofs.Store.Disjoint

/-!
Updates as a database reads them: a table, the columns that are set, each to the value of its
number, and the id of the record. A patch has three readings, which are its fields, the columns it
assigns and the text it compiles to; all of them make the same record out of a record
(`patch_readings_agree`).
-/
namespace VehicleRecords.Sql

open Fragment

structure Setting where
  column : Column
  number : Nat
  value : Value
  deriving DecidableEq, Repr

structure Update where
  table : String
  settings : List Setting
  id : Int64
  deriving DecidableEq, Repr

def Setting.ofLexemes? : List (Lexeme (Nat × Value)) → Option Setting
  | [.name column, .word "=", .param (number, value)] =>
    (Column.ofName? column).map (⟨·, number, value⟩)
  | _ => none

namespace Update

def idOf? : List (Lexeme (Nat × Value)) → Option Int64
  | [.name column, .word "=", .param (_, .int id), .word ";"] =>
    if column = idColumn then some id else none
  | _ => none

/-- Reads `UPDATE table SET settings WHERE key = id;`. -/
def ofLexemes? (ls : List (Lexeme (Nat × Value))) : Option Update :=
  match Text.cutOnce (.word "WHERE") ls with
  | (.word "UPDATE" :: .name table :: .word "SET" :: settings, some condition) =>
    match (Text.cut (.word ",") settings).mapM Setting.ofLexemes?, idOf? condition with
    | some settings, some id => some ⟨table, settings, id⟩
    | _, _ => none
  | _ => none

def columns (u : Update) : List Column := u.settings.map Setting.column

/-- The columns of a record after the settings, one after the other. -/
def assign (u : Update) (row : Column → Value) : Column → Value :=
  u.settings.foldl (fun row s => Function.update row s.column s.value) row

end Update

def Compiled.update? (c : Compiled) : Option Update :=
  c.read.bind fun ts => Update.ofLexemes? (lexemes ts)

/-! ## Reading -/

/-- The settings of assignments whose values are numbered behind `bound`. -/
def settingsFrom (bound : Nat) : List (Column × Value) → List Setting
  | [] => []
  | (column, value) :: rest => ⟨column, bound + 1, value⟩ :: settingsFrom (bound + 1) rest

def settingLexemes (s : Setting) : List (Lexeme (Nat × Value)) :=
  [.name s.column.name, .word "=", .param (s.number, s.value)]

theorem settingsFrom_assignments (bound : Nat) (as : List (Column × Value)) :
    (settingsFrom bound as).map (fun s => (s.column, s.value)) = as := by
  induction as generalizing bound with
  | nil => rfl
  | cons a as ih => rw [settingsFrom, List.map_cons, ih]

theorem settingsFrom_ne_nil (bound : Nat) {as : List (Column × Value)} (h : as ≠ []) :
    settingsFrom bound as ≠ [] := by
  intro hnil
  have hmap := settingsFrom_assignments bound as
  rw [hnil] at hmap
  exact h hmap.symm

theorem settingsFrom_columns (bound : Nat) (as : List (Column × Value)) :
    (settingsFrom bound as).map Setting.column = as.map Prod.fst := by
  calc
    (settingsFrom bound as).map Setting.column
      = ((settingsFrom bound as).map fun s => (s.column, s.value)).map Prod.fst := by
        rw [List.map_map]
        rfl
    _ = as.map Prod.fst := by rw [settingsFrom_assignments]

/-- The number of a setting is the place of its value behind the parameters before it. -/
theorem lookup_settingsFrom (before : List Value) (as : List (Column × Value)) (after : List Value) :
    ∀ s ∈ settingsFrom before.length as,
      lookup (before ++ as.map Prod.snd ++ after) s.number = some (s.number, s.value) := by
  induction as generalizing before with
  | nil => nofun
  | cons a as ih =>
    have hrest := ih (before ++ [a.2])
    rw [List.length_append, List.length_singleton, List.append_assoc before, List.singleton_append]
      at hrest
    rw [settingsFrom, List.forall_mem_cons]
    refine ⟨?_, hrest⟩
    rw [List.append_assoc]
    exact lookup_append before _ a.2

theorem lexemes_assignments (bound : Nat) (as : List (Column × Value)) (fs : List Fragment) :
    lexemes (numbered bound (commaSeparated (as.map assignmentFragments) ++ fs)) =
      [.word ","].intercalate ((settingsFrom bound as).map settingLexemes) ++
        lexemes (numbered (bound + as.length) fs) := by
  have hone (bound : Nat) (a : Column × Value) (fs : List Fragment) :
      lexemes (numbered bound (assignmentFragments a ++ fs)) =
        settingLexemes ⟨a.1, bound + 1, a.2⟩ ++ lexemes (numbered (bound + 1) fs) := rfl
  have hcomma (bound : Nat) (fs : List Fragment) :
      lexemes (numbered bound (word ", " :: fs)) = .word "," :: lexemes (numbered bound fs) := rfl
  induction as generalizing bound with
  | nil => rfl
  | cons a as ih =>
    cases as with
    | nil =>
      rw [List.map_singleton, commaSeparated_singleton, hone, settingsFrom, settingsFrom,
        List.map_singleton, List.intercalate_singleton, List.length_singleton]
    | cons next as =>
      have hlist : [.word ","].intercalate
          ((settingsFrom bound (a :: next :: as)).map settingLexemes) =
          settingLexemes ⟨a.1, bound + 1, a.2⟩ ++ .word "," ::
            [.word ","].intercalate ((settingsFrom (bound + 1) (next :: as)).map settingLexemes) := by
        rw [settingsFrom, settingsFrom, List.map_cons, List.map_cons, List.intercalate_cons_cons,
          List.append_assoc, List.singleton_append]
      have hbound : bound + 1 + (next :: as).length = bound + (a :: next :: as).length := by
        simp only [List.length_cons]
        omega
      rw [List.map_cons, List.map_cons, commaSeparated_cons, List.append_assoc, List.cons_append,
        hone, hcomma, ← List.map_cons, ih, hlist, hbound, List.append_assoc, List.cons_append]

/-- Between the commas of a row of settings and in front of its end stand no other marks. -/
theorem not_mem_settingLexemes {w : String} (h : w ≠ "=") (s : Setting) :
    .word w ∉ settingLexemes s := by
  simp only [settingLexemes, List.mem_cons, List.not_mem_nil, or_false, reduceCtorEq, false_or,
    Lexeme.word.injEq]
  exact h

theorem ofLexemes_setting (s : Setting) : Setting.ofLexemes? (settingLexemes s) = some s := by
  rw [settingLexemes, Setting.ofLexemes?, Column.ofName?_name, Option.map_some]

theorem settings_read (settings : List Setting) (hne : settings ≠ []) :
    (Text.cut (.word ",") ([.word ","].intercalate (settings.map settingLexemes))).mapM
      Setting.ofLexemes? = some settings := by
  rw [Text.cut_intercalate]
  · exact mapM_map_some _ _ _ fun s _ => ofLexemes_setting s
  · rwa [ne_eq, List.map_eq_nil_iff]
  · rw [List.forall_mem_map]
    exact fun s _ => not_mem_settingLexemes (by decide) s

def Update.ofPatch (table : String) (bound : Nat) (id : Int64) (patch : CarPatch) : Update :=
  ⟨table, settingsFrom bound patch.assignments, id⟩

/-- A database reads in a compiled update the settings of its patch and the id. -/
theorem update_compile (table : String) (before : List Value) (id : Int64) (patch : CarPatch)
    (c : Compiled) (hpatch : patch.assignments ≠ [])
    (h : compile table before (.run (.updateById id patch)) = .ok c) :
    c.update? = some (Update.ofPatch table before.length id patch) := by
  let settings := settingsFrom before.length patch.assignments
  let list : List (Lexeme (Nat × Value)) := [.word ","].intercalate (settings.map settingLexemes)
  have hsettings : settings ≠ [] := settingsFrom_ne_nil before.length hpatch
  have hlexemes : lexemes (numbered before.length
      (Statement.fragments table (.run (.updateById id patch)) ++ [word ";"])) =
      (.word "UPDATE" :: .name table :: .word "SET" :: list) ++ .word "WHERE" ::
        [.name idColumn, .word "=", .param (before.length + patch.assignments.length + 1, .int id),
          .word ";"] := by
    have hhead (fs : List Fragment) :
        lexemes (numbered before.length (word "UPDATE " :: name table :: word " SET " :: fs)) =
          .word "UPDATE" :: .name table :: .word "SET" :: lexemes (numbered before.length fs) := rfl
    simp only [Statement.fragments, List.cons_append, List.append_assoc]
    rw [hhead, lexemes_assignments]
    rfl
  have hlist : .word "WHERE" ∉ list := by
    refine Text.not_mem_intercalate (by decide) _ ?_
    rw [List.forall_mem_map]
    exact fun s _ => not_mem_settingLexemes (by decide) s
  have hfront : .word "WHERE" ∉ .word "UPDATE" :: .name table :: .word "SET" :: list := by
    simp only [List.mem_cons, hlist, reduceCtorEq, Lexeme.word.injEq, String.reduceEq, or_self,
      not_false_iff]
  rw [Compiled.update?, read_compile _ _ _ _ h, Option.bind_some, hlexemes, Update.ofLexemes?,
    Text.cutOnce_append _ _ _ hfront]
  simp only [list, settings_read settings hsettings]
  rfl

/-! ## Assigning -/

namespace Update

/-- A column that is not set keeps its value. -/
theorem assign_of_not_mem (u : Update) (row : Column → Value) (column : Column)
    (h : column ∉ u.columns) : u.assign row column = row column := by
  obtain ⟨table, settings, id⟩ := u
  rw [assign]
  rw [columns] at h
  dsimp only at h ⊢
  induction settings generalizing row with
  | nil => rfl
  | cons s settings ih =>
    rw [List.map_cons, List.mem_cons, not_or] at h
    rw [List.foldl_cons, ih _ h.2, Function.update_of_ne h.1]

/-- A column that is set once gets the value of its setting. -/
theorem assign_of_mem (u : Update) (row : Column → Value) (hnodup : u.columns.Nodup)
    {s : Setting} (hs : s ∈ u.settings) : u.assign row s.column = s.value := by
  obtain ⟨table, settings, id⟩ := u
  rw [assign]
  rw [columns] at hnodup
  dsimp only at hs hnodup ⊢
  induction settings generalizing row with
  | nil => cases hs
  | cons first settings ih =>
    rw [List.map_cons, List.nodup_cons] at hnodup
    rw [List.foldl_cons]
    rcases List.mem_cons.1 hs with rfl | hs
    · -- The settings behind are of other columns.
      have hkept := assign_of_not_mem ⟨table, settings, id⟩
        (Function.update row s.column s.value) s.column hnodup.1
      rw [assign] at hkept
      rw [hkept, Function.update_self]
    · exact ih _ hnodup.2 hs

end Update

/-! ## Patches -/

theorem sublist_assignments_columns (patch : CarPatch) :
    (patch.assignments.map Prod.fst).Sublist Column.all := by
  rw [patch.assignments_columns]
  exact List.filter_sublist

theorem nodup_columns : Column.all.Nodup := by decide

/-- A patch is empty when it assigns nothing; an owner without fields assigns nothing. -/
theorem isEmpty_iff_assignments (patch : CarPatch) :
    patch.isEmpty = true ↔ patch.assignments = [] := by
  rw [patch.isEmpty_iff, List.eq_nil_iff_forall_not_mem]
  constructor
  · rintro h ⟨column, value⟩ hmem
    rw [CarPatch.mem_assignments, h column] at hmem
    cases hmem
  · intro h column
    rw [Option.eq_none_iff_forall_ne_some]
    intro value hvalue
    exact h (column, value) ((patch.mem_assignments column value).2 hvalue)

section OfPatch

variable (table : String) (bound : Nat) (id : Int64) (patch : CarPatch)

theorem columns_ofPatch :
    (Update.ofPatch table bound id patch).columns = patch.assignments.map Prod.fst :=
  settingsFrom_columns bound patch.assignments

theorem mem_columns_ofPatch (column : Column) :
    column ∈ (Update.ofPatch table bound id patch).columns ↔ patch.value? column ≠ none := by
  rw [columns_ofPatch, patch.assignments_columns, List.mem_filter, Option.isSome_iff_ne_none]
  exact and_iff_right column.mem_all

/-- Setting the columns of the text makes the columns of the patched record. -/
theorem assign_ofPatch (car : Car) :
    (Update.ofPatch table bound id patch).assign car.value = (patch.apply car).value := by
  let u := Update.ofPatch table bound id patch
  have hnodup : u.columns.Nodup := by
    rw [columns_ofPatch]
    exact nodup_columns.sublist (sublist_assignments_columns patch)
  funext column
  rw [patch.value_apply]
  cases hvalue : patch.value? column with
  | none =>
    have hfree : column ∉ u.columns := fun hmem =>
      (mem_columns_ofPatch table bound id patch column).1 hmem hvalue
    exact u.assign_of_not_mem car.value column hfree
  | some value =>
    have hassigned : (column, value) ∈ u.settings.map fun s => (s.column, s.value) := by
      rw [show u.settings.map _ = patch.assignments from settingsFrom_assignments _ _]
      exact (patch.mem_assignments column value).2 hvalue
    obtain ⟨s, hs, heq⟩ := List.mem_map.1 hassigned
    obtain ⟨rfl, rfl⟩ := Prod.mk.inj heq
    exact u.assign_of_mem car.value hnodup hs

end OfPatch

/-- A patch is empty when it assigns nothing, and then there is no update. Of another patch the
compiled update sets columns of the record, each at most once and in column order, to the values that
its numbers stand for; what it makes of the columns of a record are those of the patched record, which a
store then holds under the id. -/
theorem patch_readings_agree (table : String) (before : List Value) (id : Int64)
    (patch : CarPatch) :
    (patch.isEmpty = true ↔ patch.assignments = []) ∧
    if patch.isEmpty then
      compile table before (.run (.updateById id patch)) = .error .noFieldsToUpdate ∧
        ∀ car, patch.apply car = car
    else
      ∃ c u, compile table before (.run (.updateById id patch)) = .ok c ∧ c.update? = some u ∧
        u.table = table ∧ u.id = id ∧ u.settings ≠ [] ∧
        u.columns.Sublist Column.all ∧ u.columns.Nodup ∧
        (u.settings.map fun s => (s.column, s.value)) = patch.assignments ∧
        (∀ s ∈ u.settings, lookup c.params s.number = some (s.number, s.value)) ∧
        ∀ car, u.assign car.value = (patch.apply car).value ∧ (patch.apply car).id = car.id ∧
          (∀ column, column ∉ u.columns → (patch.apply car).value column = car.value column) ∧
          ∀ m : Store.Memory, ∀ answer, m.find? id = some car →
            (m.run (.updateById id patch)).1 = .ok answer →
            (m.run (.updateById id patch)).2.find? id = some (patch.apply car) := by
  have hempty := isEmpty_iff_assignments patch
  refine ⟨hempty, ?_⟩
  split
  · next h =>
    have hvalue := patch.isEmpty_iff.1 h
    have hverify : Statement.verify (.run (.updateById id patch)) = .error .noFieldsToUpdate :=
      if_pos h
    refine ⟨by rw [compile, hverify], fun car => Car.eq_of_id_of_value rfl fun column => ?_⟩
    rw [patch.value_apply, hvalue, Option.getD_none]
  · next h =>
    have hassigns : patch.assignments ≠ [] := fun hnil => h (hempty.2 hnil)
    have hverify : Statement.verify (.run (.updateById id patch)) = .ok () := if_neg h
    obtain ⟨c, hc⟩ : ∃ c, compile table before (.run (.updateById id patch)) = .ok c := by
      rw [compile, hverify]
      exact ⟨_, rfl⟩
    have hparams : c.params = before ++ patch.assignments.map Prod.snd ++ [.int id] := by
      rw [compile, hverify] at hc
      cases hc
      rw [patch.assignments_values, List.append_assoc]
      exact congrArg (before ++ ·) (values_fragments table (.run (.updateById id patch)))
    have hsub := sublist_assignments_columns patch
    have hcolumns := columns_ofPatch table before.length id patch
    refine ⟨c, _, hc, update_compile table before id patch c hassigns hc, rfl, rfl, ?_, ?_, ?_,
      settingsFrom_assignments _ _, ?_, fun car =>
        ⟨assign_ofPatch _ _ _ patch car, rfl, ?_, ?_⟩⟩
    · exact settingsFrom_ne_nil before.length hassigns
    · rwa [hcolumns]
    · rw [hcolumns]
      exact nodup_columns.sublist hsub
    · rw [hparams]
      exact lookup_settingsFrom before patch.assignments [.int id]
    · intro column hcolumn
      rw [← assign_ofPatch table before.length id patch]
      exact Update.assign_of_not_mem _ _ _ hcolumn
    · intro m answer hcar hrun
      obtain ⟨stored, hstored, hfind⟩ := Store.Memory.find?_of_run_updateById hrun
      rw [hcar, Option.some.injEq] at hstored
      rw [hfind, hstored]

/-- The year is set and the patronymic is cleared, behind one parameter; the mark is left alone. -/
theorem patch_readings_with_owner :
    ∃ c u, compile "cars" [.null] (.run (.updateById 7
        { year := some 2010, owner := some { patronymic := some "" } })) = .ok c ∧
      c.update? = some u ∧ u = ⟨"cars", [⟨.year, 2, .int 2010⟩, ⟨.ownerPatronymic, 3, .text ""⟩], 7⟩ ∧
      u.assign (Car.value { mark := "Lada", owner := ⟨"Ann", "Ray", "Lee"⟩ }) =
        Car.value { mark := "Lada", year := 2010, owner := ⟨"Ann", "Ray", ""⟩ } := by
  let patch : CarPatch := { year := some 2010, owner := some { patronymic := some "" } }
  obtain ⟨_, hreadings⟩ := patch_readings_agree "cars" [.null] 7 patch
  rw [if_neg (by decide)] at hreadings
  obtain ⟨c, u, hc, hu, -, -, -, -, -, -, -, hassign⟩ := hreadings
  have hread := update_compile "cars" [.null] 7 patch c (by decide) hc
  rw [hu, Option.some.injEq] at hread
  exact ⟨c, u, hc, hu, hread, (hassign _).1⟩

end VehicleRecords.Sql
