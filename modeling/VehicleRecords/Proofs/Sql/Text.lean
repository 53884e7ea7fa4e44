import Mathlib.Data.Fintype.Powerset
import VehicleRecords.Proofs.Sql.Recovery
import VehicleRecords.Proofs.Sql.Shape

/-!
What the text of a statement tells without the parameters. A text of fixed shape is neither the text
of a query nor that of an insertion (`hasFixedShape_of_text`), and the operations on one table have at
most 129 of them (`card_fixedTexts_le`).
-/
namespace VehicleRecords

instance : Fintype Column := Fintype.ofList Column.all Column.mem_all

namespace CarPatch

def columns (p : CarPatch) : Finset Column := Finset.univ.filter fun c => (p.value? c).isSome

/-- A patch that sets the given columns, each to nothing. -/
def clearing (columns : Finset Column) : CarPatch where
  regNum := if .regNum ∈ columns then some "" else none
  mark := if .mark ∈ columns then some "" else none
  model := if .model ∈ columns then some "" else none
  year := if .year ∈ columns then some 0 else none
  owner := some {
    name := if .ownerName ∈ columns then some "" else none
    surname := if .ownerSurname ∈ columns then some "" else none
    patronymic := if .ownerPatronymic ∈ columns then some "" else none }

theorem mem_columns (p : CarPatch) (c : Column) : c ∈ p.columns ↔ (p.value? c).isSome = true := by
  rw [columns, Finset.mem_filter]
  exact and_iff_right (Finset.mem_univ c)

theorem columns_clearing (columns : Finset Column) : (clearing columns).columns = columns := by
  ext c
  rw [mem_columns]
  cases c <;> simp [clearing, value?, ownerName, ownerSurname, ownerPatronymic]

theorem isSome_value_eq {p q : CarPatch} (h : p.columns = q.columns) (c : Column) :
    (p.value? c).isSome = (q.value? c).isSome := by
  rw [Bool.eq_iff_iff, ← mem_columns, ← mem_columns, h]

end CarPatch

/-- There are 127 sets of columns that an update may be about. -/
theorem card_columnSets : (Finset.univ.erase (∅ : Finset Column)).card = 127 := by
  have hcolumns : Fintype.card Column = 7 := rfl
  rw [Finset.card_erase_of_mem (Finset.mem_univ ∅), Finset.card_univ, Fintype.card_finset, hcolumns]
  rfl

namespace Sql

open Fragment

def Statement.text (table : String) (stmt : Statement) : String :=
  write 0 (stmt.fragments table ++ [word ";"])

theorem sql_of_compile {table : String} {stmt : Statement} {c : Compiled}
    (h : compile table [] stmt = .ok c) : c.sql = stmt.text table := by
  unfold compile at h
  split at h
  · cases h
  · cases h
    rfl

theorem compile_of_not_vacant (table : String) {stmt : Statement} (h : ¬ stmt.Vacant) :
    ∃ params, compile table [] stmt = .ok ⟨stmt.text table, params⟩ := by
  cases hc : compile table [] stmt with
  | error e => exact absurd (vacant_of_compile _ _ _ _ hc) h
  | ok c => exact ⟨c.params, by rw [← sql_of_compile hc]⟩

theorem text_of_sameShape (table : String) {stmt stmt' : Statement} (h : stmt.SameShape stmt') :
    stmt.text table = stmt'.text table := by
  rw [Statement.text, Statement.text, write, write, ← writeOnto_blank, ← writeOnto_blank "" 0
    (stmt'.fragments table ++ _), List.map_append, List.map_append,
    blank_fragments table stmt stmt' h]

/-! ## Texts and kinds -/

def Token.blank : Token Value → Token Value := Token.map fun _ => .null

/-- A text tells the words and names of its statement, and where its values stand. -/
theorem spell_of_text {table table' : String} {stmt stmt' : Statement}
    (h : stmt.text table = stmt'.text table') :
    ((stmt.fragments table ++ [word ";"]).flatMap spell).map Token.blank =
      ((stmt'.fragments table' ++ [word ";"]).flatMap spell).map Token.blank := by
  -- The tokens of a text have numbers for values; without either they are the same.
  have htokens (table : String) (stmt : Statement) :
      ((stmt.fragments table ++ [word ";"]).flatMap spell).map Token.blank =
        (tokens (stmt.text table).toList).map (Token.map fun _ => .null) := by
    have hunnumbered : Token.blank ∘ Token.map Prod.snd =
        Token.map (fun _ => Value.null) ∘ Token.map (Prod.fst : Nat × Value → Nat) := by
      funext t
      cases t <;> rfl
    rw [Statement.text, tokens_write 0 _ (legible_fragments table stmt), ← numbered_values 0,
      List.map_map, List.map_map, hunnumbered]
  rw [htokens, htokens, h]

theorem blank_front (k : Statement.Kind) (table : String) :
    ((k.front table).flatMap spell).map Token.blank = (k.front table).flatMap spell := by
  have hnames (fs : List Fragment) (h : values fs = []) :
      (fs.flatMap spell).map Token.blank = fs.flatMap spell := by
    induction fs with
    | nil => rfl
    | cons f fs ih =>
      rw [List.flatMap_cons, List.map_append]
      cases f with
      | word w =>
        have hw : (spell (word w)).map Token.blank = spell (word w) := List.map_map
        rw [hw, ih h]
      | name n =>
        rw [ih h]
        rfl
      | bind v => cases h
  apply hnames
  cases k <;> rfl

/-- Statements of one text begin alike, and what follows the table differs at most in values. -/
theorem kind_of_text {table table' : String} {stmt stmt' : Statement}
    (h : stmt.text table = stmt'.text table') :
    stmt.kind = stmt'.kind ∧ (stmt.afterTable.flatMap spell).map Token.blank =
      (stmt'.afterTable.flatMap spell).map Token.blank := by
  have hspell := spell_of_text h
  rw [spell_fragments, spell_fragments, List.map_append, List.map_append, blank_front,
    blank_front] at hspell
  obtain ⟨hkind, _, hrest⟩ := spell_front_inj _ _ _ _ _ _ hspell
  exact ⟨hkind, hrest⟩

def Statement.firstMark (stmt : Statement) : Option (Token Value) :=
  ((stmt.afterTable.flatMap spell).map Token.blank).find? Token.isMark

theorem find?_blank_word (w : String) (ts : List (Token Value)) :
    ((spell (word w) ++ ts).map Token.blank).find? Token.isMark =
      (ts.map Token.blank).find? Token.isMark := by
  have hsymbols : ((spell (word w)).map Token.blank).find? Token.isMark = none := by
    rw [List.find?_eq_none]
    intro t ht
    obtain ⟨_, hs, rfl⟩ := List.mem_map.1 ht
    obtain ⟨c, _, rfl⟩ := List.mem_map.1 hs
    exact Bool.false_ne_true
  rw [List.map_append, List.find?_append, hsymbols, Option.none_or]

theorem firstMark_getById (id : Int64) :
    (Statement.run (.getById id)).firstMark = some (.name idColumn) := by
  rw [Statement.firstMark, Statement.afterTable, spell_idCondition, find?_blank_word]
  rfl

theorem firstMark_query (filter : Filter) (page : Pagination) :
    (Statement.run (.query filter page)).firstMark ≠ some (.name idColumn) := by
  rw [Statement.firstMark, Statement.afterTable, List.flatMap_append]
  cases filter with
  | nil =>
    have hnil : (filterFragments []).flatMap spell = [] := rfl
    rw [hnil, List.nil_append, spell_pagination]
    split
    · have hend : spell (word ";") = spell (word ";") ++ [] := (List.append_nil _).symm
      rw [hend, find?_blank_word]
      exact Option.some_ne_none _ ∘ Eq.symm
    · rw [find?_blank_word]
      intro h
      cases h
  | cons p ps =>
    rw [spell_filter, find?_blank_word, spell_predicate]
    intro h
    have hcolumn := Token.name.inj (Option.some.inj h)
    revert hcolumn
    cases p.column <;> decide

/-- A statement has a fixed shape unless it inserts, or selects by another column than the id. -/
theorem hasFixedShape_iff (stmt : Statement) : stmt.hasFixedShape = true ↔
    stmt.kind ≠ .insert ∧ (stmt.kind = .select → stmt.firstMark = some (.name idColumn)) := by
  have hsimple (h : stmt.hasFixedShape = true) (hi : stmt.kind ≠ .insert)
      (hs : stmt.kind ≠ .select) : stmt.hasFixedShape = true ↔
      stmt.kind ≠ .insert ∧ (stmt.kind = .select → stmt.firstMark = some (.name idColumn)) :=
    ⟨fun _ => ⟨hi, fun hselect => absurd hselect hs⟩, fun _ => h⟩
  cases stmt with
  | createTable _ => exact hsimple rfl nofun nofun
  | dropTable _ => exact hsimple rfl nofun nofun
  | run op =>
    cases op with
    | deleteById id => exact hsimple rfl nofun nofun
    | updateById id patch => exact hsimple rfl nofun nofun
    | getById id => exact ⟨fun _ => ⟨nofun, fun _ => firstMark_getById id⟩, fun _ => rfl⟩
    | insert cars => exact ⟨nofun, fun h => absurd rfl h.1⟩
    | query filter page =>
      exact ⟨nofun, fun h => absurd (h.2 rfl) (firstMark_query filter page)⟩

theorem hasFixedShape_of_text {table table' : String} {stmt stmt' : Statement}
    (h : stmt.text table = stmt'.text table') (hfixed : stmt.hasFixedShape = true) :
    stmt'.hasFixedShape = true := by
  obtain ⟨hkind, hrest⟩ := kind_of_text h
  have hmark : stmt.firstMark = stmt'.firstMark := congrArg (List.find? Token.isMark) hrest
  rw [hasFixedShape_iff] at hfixed ⊢
  rwa [← hkind, ← hmark]

/-! ## Texts of fixed shape -/

def HasText (table : String) (op : Operation) (text : String) : Prop :=
  ∃ params, compile table [] (.run op) = .ok ⟨text, params⟩

theorem text_of_hasText {table : String} {op : Operation} {text : String}
    (h : HasText table op text) : text = (Statement.run op).text table := by
  obtain ⟨params, hc⟩ := h
  exact sql_of_compile hc

/-- The text is that of every look-up by id, of every deletion by id, or of every update that sets the
columns of one patch. -/
inductive FixedText (table text : String) : Prop
  | getById (h : ∀ id, HasText table (.getById id) text)
  | deleteById (h : ∀ id, HasText table (.deleteById id) text)
  | updateById (patch : CarPatch) (sets : patch.columns.Nonempty)
    (h : ∀ id other, other.columns = patch.columns → HasText table (.updateById id other) text)

theorem not_vacant_update_iff (id : Int64) (patch : CarPatch) :
    ¬ (Statement.run (.updateById id patch)).Vacant ↔ patch.columns.Nonempty := by
  have hnone (c : Column) : patch.value? c = none ↔ c ∉ patch.columns := by
    rw [CarPatch.mem_columns, Option.not_isSome_iff_eq_none]
  rw [Statement.Vacant, Finset.nonempty_iff_ne_empty, Ne, Finset.eq_empty_iff_forall_notMem]
  simp only [hnone]

/-- Whatever the id and the values, an operation of fixed shape has one of the fixed texts. -/
theorem fixedText_of_hasText {table : String} {op : Operation} {text : String}
    (hfixed : (Statement.run op).hasFixedShape = true) (h : HasText table op text) :
    FixedText table text := by
  have hshape (other : Operation) (hv : ¬ (Statement.run other).Vacant)
      (hs : (Statement.run op).SameShape (.run other)) : HasText table other text := by
    rw [text_of_hasText h, text_of_sameShape table hs]
    exact compile_of_not_vacant table hv
  cases op with
  | getById id => exact .getById fun id' => hshape _ not_false (.getById id id')
  | deleteById id => exact .deleteById fun id' => hshape _ not_false (.deleteById id id')
  | updateById id patch =>
    obtain ⟨params, hc⟩ := h
    have hsets := (not_vacant_update_iff id patch).1 (not_vacant_of_compile _ _ _ _ hc)
    refine .updateById patch hsets fun id' other hother => hshape _ ?_ ?_
    · rwa [not_vacant_update_iff, hother]
    · exact .updateById id id' patch other (CarPatch.isSome_value_eq hother.symm)
  | insert cars => cases hfixed
  | query filter page => cases hfixed

def fixedTexts (table : String) : Finset String :=
  insert ((Statement.run (.getById 0)).text table)
    (insert ((Statement.run (.deleteById 0)).text table)
      ((Finset.univ.erase ∅).image fun columns =>
        (Statement.run (.updateById 0 (.clearing columns))).text table))

theorem card_fixedTexts_le (table : String) : (fixedTexts table).card ≤ 129 := by
  have hupdates := Finset.card_image_le (s := Finset.univ.erase (∅ : Finset Column))
    (f := fun columns => (Statement.run (.updateById 0 (.clearing columns))).text table)
  rw [card_columnSets] at hupdates
  calc (fixedTexts table).card
    _ ≤ _ + 1 := Finset.card_insert_le _ _
    _ ≤ _ + 1 + 1 := Nat.add_le_add_right (Finset.card_insert_le _ _) 1
    _ ≤ 127 + 1 + 1 := by omega

/-- An update is known by the set of columns that its patch sets. -/
theorem mem_fixedTexts {table text : String} (h : FixedText table text) :
    text ∈ fixedTexts table := by
  rw [fixedTexts, Finset.mem_insert, Finset.mem_insert, Finset.mem_image]
  cases h with
  | getById h => exact .inl (text_of_hasText (h 0))
  | deleteById h => exact .inr (.inl (text_of_hasText (h 0)))
  | updateById patch sets h =>
    have htext := text_of_hasText (h 0 (.clearing patch.columns) (CarPatch.columns_clearing _))
    have hcolumns : patch.columns ∈ Finset.univ.erase ∅ :=
      Finset.mem_erase.2 ⟨sets.ne_empty, Finset.mem_univ _⟩
    exact .inr (.inr ⟨patch.columns, hcolumns, htext.symm⟩)

end Sql

end VehicleRecords
