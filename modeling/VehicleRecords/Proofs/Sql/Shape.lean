import VehicleRecords.Proofs.Sql.Numbering

namespace VehicleRecords

/-- The columns that a patch assigns are the columns it sets, in column order. -/
theorem CarPatch.assignments_columns (p : CarPatch) :
    p.assignments.map Prod.fst = Column.all.filter fun c => (p.value? c).isSome := by
  rw [assignments]
  induction Column.all with
  | nil => rfl
  | cons c cs ih =>
    cases h : p.value? c with
    | none => simpa only [List.filterMap_cons, h, Option.map_none, List.filter_cons,
        Option.isSome_none, Bool.false_eq_true, if_false] using ih
    | some v => simpa only [List.filterMap_cons, h, Option.map_some, List.filter_cons,
        Option.isSome_some, if_true, List.map_cons, List.cons.injEq, true_and] using ih

namespace Sql

open Fragment

/-- The statements are of one kind and differ at most in the values of filters, patches and records,
in ids, in windows that are both open or both closed, and in the connective of a first condition. -/
inductive Statement.SameShape : Statement → Statement → Prop
  | createTable (ifNotExists : Bool) :
    SameShape (.createTable ifNotExists) (.createTable ifNotExists)
  | dropTable (ifExists : Bool) : SameShape (.dropTable ifExists) (.dropTable ifExists)
  | deleteById (id id' : Int64) : SameShape (.run (.deleteById id)) (.run (.deleteById id'))
  | getById (id id' : Int64) : SameShape (.run (.getById id)) (.run (.getById id'))
  | insert (cars cars' : List Car) (length : cars.length = cars'.length) :
    SameShape (.run (.insert cars)) (.run (.insert cars'))
  | query (filter filter' : Filter) (page page' : Pagination)
    (conditions : filter.map (fun p => (p.column, p.operator)) =
      filter'.map (fun p => (p.column, p.operator)))
    (connectives : filter.tail.map (·.connective) = filter'.tail.map (·.connective))
    (window : page.limit = 0 ↔ page'.limit = 0) :
    SameShape (.run (.query filter page)) (.run (.query filter' page'))
  | updateById (id id' : Int64) (patch patch' : CarPatch)
    (columns : ∀ c, (patch.value? c).isSome = (patch'.value? c).isSome) :
    SameShape (.run (.updateById id patch)) (.run (.updateById id' patch'))

def Fragment.blank : Fragment → Fragment
  | .bind _ => .bind .null
  | f => f

/-- The text has nothing of the values. -/
theorem writeOnto_blank (text : String) (bound : Nat) (fs : List Fragment) :
    writeOnto text bound (fs.map blank) = writeOnto text bound fs := by
  induction fs generalizing text bound with
  | nil => rfl
  | cons f fs ih => cases f <;> exact ih _ _

theorem blank_commaSeparated (gs : List (List Fragment)) :
    (commaSeparated gs).map blank = commaSeparated (gs.map (·.map blank)) := by
  induction gs with
  | nil => rfl
  | cons g gs ih =>
    cases gs with
    | nil => simp only [List.map_cons, List.map_nil, commaSeparated_singleton]
    | cons g' gs =>
      rw [commaSeparated_cons, List.map_append, List.map_cons, ih]
      simp only [List.map_cons, commaSeparated_cons]
      rfl

theorem blank_predicate (p : Predicate) : (predicateFragments p).map blank =
    [name p.column.name, word (" " ++ operatorSymbol p.operator ++ " "), bind .null] := rfl

theorem blank_filter (filter filter' : Filter)
    (h : filter.map (fun p => (p.column, p.operator)) =
      filter'.map (fun p => (p.column, p.operator)))
    (hc : filter.tail.map (·.connective) = filter'.tail.map (·.connective)) :
    (filterFragments filter).map blank = (filterFragments filter').map blank := by
  -- Past the first condition the connectives count too, so the two lists are taken off together.
  have hjoined (ps qs : List Predicate)
      (h : ps.map (fun p => (p.column, p.operator)) = qs.map (fun p => (p.column, p.operator)))
      (hc : ps.map (·.connective) = qs.map (·.connective)) :
      (ps.flatMap joinedPredicate).map blank = (qs.flatMap joinedPredicate).map blank := by
    induction ps generalizing qs with
    | nil =>
      cases qs with
      | nil => rfl
      | cons q qs => cases h
    | cons p ps ih =>
      cases qs with
      | nil => cases h
      | cons q qs =>
        simp only [List.map_cons, List.cons.injEq, Prod.mk.injEq] at h hc
        rw [List.flatMap_cons, List.flatMap_cons, List.map_append, List.map_append,
          ih qs h.2 hc.2]
        simp only [joinedPredicate, List.map_cons, blank_predicate, h.1.1, h.1.2, hc.1]
  cases filter with
  | nil =>
    cases filter' with
    | nil => rfl
    | cons q qs => cases h
  | cons p ps =>
    cases filter' with
    | nil => cases h
    | cons q qs =>
      simp only [List.map_cons, List.cons.injEq, Prod.mk.injEq] at h
      simp only [filterFragments, List.map_append, List.map_cons, List.cons_append, blank_predicate,
        h.1.1, h.1.2, hjoined ps qs h.2 hc]

theorem blank_pagination (p p' : Pagination) (h : p.limit = 0 ↔ p'.limit = 0) :
    (paginationFragments p).map blank = (paginationFragments p').map blank := by
  simp only [paginationFragments_eq, h]
  split <;> rfl

theorem blank_cars (cars cars' : List Car) (h : cars.length = cars'.length) :
    (commaSeparated (cars.map carFragments)).map blank =
      (commaSeparated (cars'.map carFragments)).map blank := by
  -- Without its values a row is the row of any record.
  have hrows (cars : List Car) : (cars.map carFragments).map (·.map blank) =
      List.replicate cars.length ((carFragments default).map blank) := by
    rw [List.map_map, ← List.map_const']
    rfl
  rw [blank_commaSeparated, blank_commaSeparated, hrows, hrows, h]

theorem blank_assignments (patch patch' : CarPatch)
    (h : ∀ c, (patch.value? c).isSome = (patch'.value? c).isSome) :
    (commaSeparated (patch.assignments.map assignmentFragments)).map blank =
      (commaSeparated (patch'.assignments.map assignmentFragments)).map blank := by
  have hset (p : CarPatch) : (p.assignments.map assignmentFragments).map (·.map blank) =
      (Column.all.filter fun c => (p.value? c).isSome).map
        fun c => [name c.name, word " = ", bind .null] := by
    rw [← p.assignments_columns, List.map_map, List.map_map]
    rfl
  simp only [blank_commaSeparated, hset, h]

/-- Statements of one shape have the same words and names in the same places. -/
theorem blank_fragments (table : String) (stmt stmt' : Statement) (h : stmt.SameShape stmt') :
    (stmt.fragments table).map blank = (stmt'.fragments table).map blank := by
  cases h with
  | createTable _ => rfl
  | dropTable _ => rfl
  | deleteById id id' => rfl
  | getById id id' => rfl
  | insert cars cars' length =>
    simp only [Statement.fragments, List.map_append, List.map_cons, blank_cars cars cars' length]
  | query filter filter' page page' conditions connectives window =>
    simp only [Statement.fragments, List.map_append, List.map_cons,
      blank_filter filter filter' conditions connectives, blank_pagination page page' window]
  | updateById id id' patch patch' columns =>
    simp only [Statement.fragments, List.map_append, List.map_cons,
      blank_assignments patch patch' columns]
    rfl

theorem vacant_of_sameShape (stmt stmt' : Statement) (h : stmt.SameShape stmt') :
    stmt.Vacant ↔ stmt'.Vacant := by
  cases h with
  | createTable _ => exact Iff.rfl
  | dropTable _ => exact Iff.rfl
  | deleteById id id' => exact Iff.rfl
  | getById id id' => exact Iff.rfl
  | insert cars cars' length =>
    simp only [Statement.Vacant, ← List.length_eq_zero_iff, length]
  | query => exact Iff.rfl
  | updateById id id' patch patch' columns =>
    refine forall_congr' fun c => ?_
    rw [← Option.not_isSome_iff_eq_none, ← Option.not_isSome_iff_eq_none, columns c]

/-- No value a caller supplies shows in the text of a statement or decides about its refusal. -/
theorem compile_text_of_sameShape (table : String) (stmt stmt' : Statement)
    (before before' : List Value) (hs : stmt.SameShape stmt')
    (hb : before.length = before'.length) :
    (∃ e e', compile table before stmt = .error e ∧ compile table before' stmt' = .error e') ∨
      ∃ c c', compile table before stmt = .ok c ∧ compile table before' stmt' = .ok c' ∧
        c.sql = c'.sql := by
  have hv : (∃ e, stmt.verify = .error e) ↔ ∃ e, stmt'.verify = .error e := by
    rw [verify_error_iff, verify_error_iff]
    exact vacant_of_sameShape stmt stmt' hs
  have htext : write before.length (stmt.fragments table ++ [word ";"]) =
      write before'.length (stmt'.fragments table ++ [word ";"]) := by
    rw [write, write, ← writeOnto_blank, ← writeOnto_blank "" before'.length, List.map_append,
      List.map_append, blank_fragments table stmt stmt' hs, hb]
  unfold compile
  -- The statements are both refused or both written.
  cases h : stmt.verify with
  | error e =>
    obtain ⟨e', he'⟩ := hv.mp ⟨e, h⟩
    rw [he']
    exact Or.inl ⟨e, e', rfl, rfl⟩
  | ok _ =>
    cases h' : stmt'.verify with
    | error e' =>
      obtain ⟨e, he⟩ := hv.mpr ⟨e', h'⟩
      rw [h] at he
      cases he
    | ok _ => exact Or.inr ⟨_, _, rfl, rfl, htext⟩

/-- A value that looks like SQL leaves the text as it is. -/
theorem compile_text_of_hostile_value :
    ∃ c c', compile "cars" [.null] (.run (.query
        [⟨.or, .mark, .eq, "'; DROP TABLE cars; --"⟩, ⟨.or, .year, .gt, "$1"⟩] ⟨5, 0⟩)) = .ok c ∧
      compile "cars" [.int 7] (.run (.query
        [⟨.and, .mark, .eq, "Lada"⟩, ⟨.or, .year, .gt, "2001"⟩] ⟨9, 3⟩)) = .ok c' ∧
      c.sql = c'.sql := by
  rcases compile_text_of_sameShape "cars"
      (.run (.query [⟨.or, .mark, .eq, "'; DROP TABLE cars; --"⟩, ⟨.or, .year, .gt, "$1"⟩] ⟨5, 0⟩))
      (.run (.query [⟨.and, .mark, .eq, "Lada"⟩, ⟨.or, .year, .gt, "2001"⟩] ⟨9, 3⟩))
      [.null] [.int 7] (.query _ _ _ _ rfl rfl (by decide)) rfl with ⟨e, _, he, _⟩ | h
  · cases he
  · exact h

end Sql

end VehicleRecords
