import VehicleRecords.Proofs.Toml.Line

/-!
Documents read back. A document is some settings and then tables of settings; its text is read as the
table of all of them when the keys of each table differ (`parse?_print`).
-/
namespace VehicleRecords.Toml

structure Document where
  root : List (String × Literal) := []
  tables : List (String × List (String × Literal)) := []
  deriving DecidableEq, Repr

namespace Document

def settingRows (settings : List (String × Literal)) : List Row :=
  settings.map fun (key, v) => .setting key v

/-- The lines of a document: the settings of a table stand below its head. -/
def rows (d : Document) : List Row :=
  settingRows d.root ++ d.tables.flatMap fun (name, settings) => .head name :: settingRows settings

def print (spell : Char → List Char) (d : Document) : String :=
  String.ofList (printRows spell d.rows)

def tableValue (settings : List (String × Literal)) : List (String × Value) :=
  settings.map fun (key, v) => (key, v.value)

def content (d : Document) : List (String × Value) :=
  tableValue d.root ++ d.tables.map fun (name, settings) => (name, .table (tableValue settings))

def value (d : Document) : Value := .table d.content

/-- Keys and numbers are such as can be written, and no key stands in a table twice. -/
structure Valid (d : Document) : Prop where
  rows : ∀ row ∈ d.rows, row.Valid
  names : (d.root.map (·.1) ++ d.tables.map (·.1)).Nodup
  keys : ∀ t ∈ d.tables, (t.2.map (·.1)).Nodup

end Document

/-! ## Look-ups -/

section

variable {α β : Type} {l : List (String × α)}

theorem lookup_of_not_mem {key : String} (h : key ∉ l.map (·.1)) : l.lookup key = none := by
  rw [List.lookup_eq_none_iff]
  intro p hp
  rw [bne_iff_ne]
  rintro rfl
  exact h (List.mem_map_of_mem hp)

/-- Of different keys each is found with its value. -/
theorem lookup_of_mem (h : (l.map (·.1)).Nodup) {p : String × α} (hp : p ∈ l) :
    l.lookup p.1 = some p.2 := by
  obtain ⟨before, after, rfl⟩ := List.append_of_mem hp
  rw [List.lookup_eq_some_iff]
  refine ⟨before, after, rfl, fun q hq => ?_⟩
  rw [List.map_append] at h
  rw [bne_iff_ne]
  exact ((List.nodup_append.1 h).2.2 q.1 (List.mem_map_of_mem hq) p.1 List.mem_cons_self).symm

theorem lookup_map (f : α → β) (l : List (String × α)) (key : String) :
    (l.map fun (key, v) => (key, f v)).lookup key = (l.lookup key).map f := by
  induction l with
  | nil => rfl
  | cons p l ih =>
    rw [List.map_cons, List.lookup_cons, List.lookup_cons]
    cases key == p.1 with
    | true => rfl
    | false => exact ih

namespace Document

theorem lookup_setting (d : Document) {key : String} (h : key ∉ d.tables.map (·.1)) :
    d.content.lookup key = (d.root.lookup key).map Literal.value := by
  have hroot : (tableValue d.root).lookup key = (d.root.lookup key).map Literal.value :=
    lookup_map Literal.value d.root key
  have hother : (d.tables.map fun (name, settings) =>
      (name, Value.table (tableValue settings))).lookup key = none := by
    refine lookup_of_not_mem ?_
    rw [List.map_map]
    exact h
  rw [content, List.lookup_append, hroot, hother, Option.or_none]

theorem lookup_table (d : Document) {name : String} (h : name ∉ d.root.map (·.1)) :
    d.content.lookup name =
      (d.tables.lookup name).map fun settings => .table (tableValue settings) := by
  have hroot : (tableValue d.root).lookup name = none := by
    refine lookup_of_not_mem ?_
    rw [tableValue, List.map_map]
    exact h
  rw [content, List.lookup_append, hroot, Option.none_or]
  exact lookup_map (fun settings => Value.table (tableValue settings)) d.tables name

end Document

end

/-! ## Tables -/

open Document

namespace Entries

def ofSettings (settings : List (String × Literal)) : Entries :=
  settings.map fun (key, v) => (key, .value v.value)

section

variable {entries : Entries} {name : String} (h : name ∉ entries.map (·.1))

include h

theorem any_of_not_mem : entries.any (·.1 == name) = false := by
  rw [List.any_eq_false]
  intro e he heq
  exact h (List.mem_map.2 ⟨e, he, beq_iff_eq.1 heq⟩)

theorem put_of_not_mem (node : Node) : entries.put name node = entries ++ [(name, node)] := by
  rw [put, any_of_not_mem h, if_neg Bool.false_ne_true]

theorem lookup_last (node : Node) : (entries ++ [(name, node)]).lookup name = some node := by
  rw [List.lookup_append, lookup_of_not_mem h, List.lookup_cons_self]
  rfl

/-- The last table stays in its place when it is changed. -/
theorem put_last (old new : Node) :
    put (entries ++ [(name, old)]) name new = entries ++ [(name, new)] := by
  have hkept : ∀ e ∈ entries, (if e.1 == name then (name, new) else e) = id e := by
    intro e he
    have hother : (e.1 == name) = false := by
      rw [beq_eq_false_iff_ne]
      rintro rfl
      exact h (List.mem_map_of_mem he)
    rw [hother, if_neg Bool.false_ne_true, id]
  have hany : (entries ++ [(name, old)]).any (·.1 == name) = true := by
    rw [List.any_append, Bool.or_eq_true]
    exact .inr (by simp)
  rw [put, if_pos hany, List.map_append, List.map_congr_left hkept, List.map_id, List.map_singleton,
    if_pos (beq_self_eq_true name)]

theorem add?_of_not_mem (v : Value) :
    add? [] name v .defined entries = some (entries ++ [(name, .value v)]) := by
  rw [add?, change?, any_of_not_mem h, put_of_not_mem h]
  rfl

theorem define?_of_not_mem :
    define? name entries = some (entries ++ [(name, .table .defined [])]) := by
  rw [define?, lookup_of_not_mem h, put_of_not_mem h]

end

end Entries

namespace Section

/-- Entries change at the end of `path` as those do that `place` puts there. -/
def Opens (path : List String) (place : Entries → Entries) : Prop :=
  ∀ (f : Origin → Entries → Option Entries) (sub : Entries),
    Entries.change? .implied f path .defined (place sub) = (f .defined sub).map place

theorem opens_root : Opens [] id := by
  intro f sub
  rw [Entries.change?, Option.map_id]
  rfl

theorem opens_last {before : Entries} {name : String} (h : name ∉ before.map (·.1)) :
    Opens [name] fun sub => before ++ [(name, .table .defined sub)] := by
  intro f sub
  have hput (sub' : Entries) := Entries.put_last h (.table .defined sub) (.table .defined sub')
  rw [Entries.change?, Entries.lookup_last h]
  dsimp only
  rw [if_neg (fun hdotted => Origin.noConfusion hdotted.1), Entries.change?]
  simp only [hput]

/-- Settings one below the other are added to the table that is open. -/
theorem foldlM_settings {path : List String} {place : Entries → Entries} (hplace : Opens path place)
    (sub : Entries) (settings : List (String × Literal))
    (h : (sub.map (·.1) ++ settings.map (·.1)).Nodup) :
    ((settingRows settings).map Row.line).foldlM Section.step? ⟨place sub, path⟩ =
      some ⟨place (sub ++ Entries.ofSettings settings), path⟩ := by
  induction settings generalizing sub with
  | nil =>
    rw [Entries.ofSettings, List.map_nil, List.append_nil]
    rfl
  | cons setting settings ih =>
    obtain ⟨key, v⟩ := setting
    have hnew : key ∉ sub.map (·.1) := by
      intro hmem
      exact (List.nodup_append.1 h).2.2 key hmem key List.mem_cons_self rfl
    have hstep : Section.step? ⟨place sub, path⟩ (.pair [] key v.value) =
        some ⟨place (sub ++ [(key, .value v.value)]), path⟩ := by
      rw [Section.step?, hplace, Entries.add?_of_not_mem hnew]
      rfl
    have hrest : ((sub ++ [(key, Node.value v.value)]).map (·.1) ++ settings.map (·.1)).Nodup := by
      rw [List.map_append, List.append_assoc]
      exact h
    have htail := ih _ hrest
    rw [List.append_assoc] at htail
    calc ((settingRows ((key, v) :: settings)).map Row.line).foldlM Section.step? ⟨place sub, path⟩
      _ = (Section.step? ⟨place sub, path⟩ (.pair [] key v.value)).bind
          (((settingRows settings).map Row.line).foldlM Section.step?) := rfl
      _ = some ⟨place (sub ++ Entries.ofSettings ((key, v) :: settings)), path⟩ := by
        rw [hstep, Option.bind_some]
        exact htail

/-- A table that has a head is added behind what stands above it. -/
theorem foldlM_tables (entries : Entries) (path : List String)
    (tables : List (String × List (String × Literal)))
    (hnames : (entries.map (·.1) ++ tables.map (·.1)).Nodup)
    (hkeys : ∀ t ∈ tables, (t.2.map (·.1)).Nodup) :
    ∃ path', ((tables.flatMap fun (name, settings) => .head name :: settingRows settings).map
        Row.line).foldlM Section.step? ⟨entries, path⟩ =
      some ⟨entries ++ tables.map fun (name, settings) =>
        (name, .table .defined (Entries.ofSettings settings)), path'⟩ := by
  induction tables generalizing entries path with
  | nil =>
    refine ⟨path, ?_⟩
    rw [List.map_nil, List.append_nil]
    rfl
  | cons t tables ih =>
    obtain ⟨name, settings⟩ := t
    rw [List.forall_mem_cons] at hkeys
    have hnew : name ∉ entries.map (·.1) := by
      intro hmem
      exact (List.nodup_append.1 hnames).2.2 name hmem name List.mem_cons_self rfl
    have hhead : Section.step? ⟨entries, path⟩ (.table [] name) =
        some ⟨entries ++ [(name, .table .defined [])], [name]⟩ := by
      rw [Section.step?, Entries.change?, Entries.define?_of_not_mem hnew]
      rfl
    -- The head opens an empty table at the end, which the lines up to the next head fill.
    have hsettings := foldlM_settings (opens_last hnew) [] settings hkeys.1
    have hrest : ((entries ++ [(name, Node.table .defined (Entries.ofSettings settings))]).map (·.1) ++
        tables.map (·.1)).Nodup := by
      rw [List.map_append, List.append_assoc]
      exact hnames
    obtain ⟨path', htables⟩ := ih _ [name] hrest hkeys.2
    refine ⟨path', ?_⟩
    rw [List.append_assoc] at htables
    rw [List.flatMap_cons, List.cons_append, List.map_cons, List.map_append, List.foldlM_cons,
      Row.line, hhead]
    simp only [Option.bind_eq_bind, Option.bind_some, List.foldlM_append]
    rw [hsettings, Option.bind_some, List.nil_append, htables]
    rfl

end Section

theorem Node.values_eq (entries : Entries) :
    Node.values entries = entries.map fun e => (e.1, e.2.toValue) := by
  induction entries with
  | nil => rfl
  | cons e entries ih => rw [Node.values, ih, List.map_cons]

/-- The tables that were opened while reading come out as values in the same places. -/
theorem Document.toValue_entries (d : Document) :
    (Node.table .defined (Entries.ofSettings d.root ++ d.tables.map fun (name, settings) =>
      (name, .table .defined (Entries.ofSettings settings)))).toValue = d.value := by
  have hsettings (settings : List (String × Literal)) :
      Node.values (Entries.ofSettings settings) = tableValue settings := by
    rw [Node.values_eq, Entries.ofSettings, List.map_map]
    rfl
  rw [Node.toValue, Node.values_eq, List.map_append, ← Node.values_eq, hsettings, List.map_map]
  refine congrArg (fun tables => Value.table (tableValue d.root ++ tables)) ?_
  refine List.map_congr_left fun t _ => ?_
  have htable : (Node.table .defined (Entries.ofSettings t.2)).toValue =
      .table (tableValue t.2) := by
    rw [Node.toValue, hsettings]
  exact congrArg (Prod.mk t.1) htable

/-- A document is read back from its text, however the texts in it are spelled. -/
theorem parse?_print {spell : Char → List Char} (hspell : ∀ c, Spells c (spell c)) {d : Document}
    (h : d.Valid) : parse? (d.print spell).toList = some d.value := by
  have hlines : readLines? ((printRows spell d.rows).length + 1) (printRows spell d.rows) =
      some (d.rows.map Row.line) := by
    exact readLines?_print hspell h.rows _ (Nat.lt_succ_of_le (length_le_printRows spell d.rows))
  have hmark : dropMark (printRows spell d.rows) = printRows spell d.rows := by
    cases hrows : d.rows with
    | nil => rfl
    | cons row rows =>
      obtain ⟨c, s, hs, hc⟩ := row.first spell (h.rows row (hrows ▸ List.mem_cons_self))
      rw [printRows_cons, hs, List.cons_append, dropMark]
      rintro t ⟨⟩
      rcases hc with hc | hc
      · exact ne_of_isKeyChar hc rfl rfl
      · cases hc
  have hroot : ((settingRows d.root).map Row.line).foldlM Section.step? {} =
      some ⟨Entries.ofSettings d.root, []⟩ :=
    Section.foldlM_settings Section.opens_root [] d.root (List.nodup_append.1 h.names).1
  have hnames : ((Entries.ofSettings d.root).map (·.1) ++ d.tables.map (·.1)).Nodup := by
    rw [Entries.ofSettings, List.map_map]
    exact h.names
  obtain ⟨path, htables⟩ := Section.foldlM_tables _ [] d.tables hnames h.keys
  have hdocument : (d.rows.map Row.line).foldlM Section.step? {} =
      some ⟨Entries.ofSettings d.root ++ d.tables.map fun (name, settings) =>
        (name, .table .defined (Entries.ofSettings settings)), path⟩ := by
    rw [rows, List.map_append, List.foldlM_append, hroot]
    exact htables
  rw [print, String.toList_ofList, parse?]
  simp only [hmark, hlines, hdocument, Option.bind_eq_bind, Option.bind_some, Option.pure_def,
    Document.toValue_entries]

end VehicleRecords.Toml
