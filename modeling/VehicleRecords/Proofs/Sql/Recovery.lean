import VehicleRecords.Proofs.Sql.Canonical

/-!
What a compiled statement keeps. Text and parameters determine the table and the statement up to its
canonical form (`compile_determines_statement`). The tokens of the text are taken apart from the
left: a run of symbols ends at the first name or value, so words, names and values are found again.
-/
namespace VehicleRecords.Sql

open Fragment

/-- The tokens of a fragment, a value standing at its own placeholder. -/
def Fragment.spell : Fragment → List (Token Value)
  | .word w => w.toList.map .symbol
  | .name n => [.name n]
  | .bind v => [.param v]

theorem numbered_values (bound : Nat) (fs : List Fragment) :
    (numbered bound fs).map (Token.map Prod.snd) = fs.flatMap spell := by
  induction fs generalizing bound with
  | nil => rfl
  | cons f fs ih =>
    cases f with
    | word w =>
      rw [numbered, List.map_append, List.map_map, ih bound]
      rfl
    | name n =>
      rw [numbered, List.map_cons, ih bound]
      rfl
    | bind v =>
      rw [numbered, List.map_cons, ih (bound + 1)]
      rfl

/-- The token is a name or a value, which ends a run of symbols. -/
def Token.isMark {α : Type} : Token α → Bool
  | symbol _ => false
  | _ => true

/-- A run of symbols is determined by the mark behind it. -/
theorem symbols_append_inj (w w' : List Char) (t t' : Token Value) (ts ts' : List (Token Value))
    (ht : t.isMark = true) (ht' : t'.isMark = true)
    (h : w.map .symbol ++ t :: ts = w'.map .symbol ++ t' :: ts') :
    w = w' ∧ t = t' ∧ ts = ts' := by
  induction w generalizing w' with
  | nil =>
    cases w' with
    | nil => exact ⟨rfl, (List.cons.inj h).1, (List.cons.inj h).2⟩
    | cons c w' =>
      rw [(List.cons.inj h).1] at ht
      cases ht
  | cons c w ih =>
    cases w' with
    | nil =>
      rw [← (List.cons.inj h).1] at ht'
      cases ht'
    | cons c' w' =>
      obtain ⟨hc, hrest⟩ := List.cons.inj h
      obtain ⟨hw, hmark⟩ := ih w' hrest
      exact ⟨by rw [Token.symbol.inj hc, hw], hmark⟩

theorem word_append_inj (w w' : String) (t t' : Token Value) (ts ts' : List (Token Value))
    (ht : t.isMark = true) (ht' : t'.isMark = true)
    (h : spell (word w) ++ t :: ts = spell (word w') ++ t' :: ts') :
    w = w' ∧ t = t' ∧ ts = ts' := by
  obtain ⟨hw, hmark⟩ := symbols_append_inj w.toList w'.toList t t' ts ts' ht ht' h
  exact ⟨String.toList_inj.mp hw, hmark⟩

/-- A run of symbols alone holds no mark. -/
theorem symbols_ne_mark (w w' : List Char) (t : Token Value) (ts : List (Token Value))
    (ht : t.isMark = true) : w.map .symbol ≠ w'.map .symbol ++ t :: ts := by
  intro h
  have hm : t ∈ w.map Token.symbol := by
    rw [h]
    exact List.mem_append_right _ List.mem_cons_self
  obtain ⟨c, _, rfl⟩ := List.mem_map.mp hm
  cases ht

theorem operatorWord_inj (o o' : Operator)
    (h : " " ++ operatorSymbol o ++ " " = " " ++ operatorSymbol o' ++ " ") : o = o' := by
  revert h
  cases o <;> cases o' <;> decide

theorem connectiveWord_inj (c c' : Connective)
    (h : " " ++ connectiveSymbol c ++ " " = " " ++ connectiveSymbol c' ++ " ") : c = c' := by
  revert h
  cases c <;> cases c' <;> decide

theorem spell_predicate (p : Predicate) (ts : List (Token Value)) :
    (predicateFragments p).flatMap spell ++ ts = .name p.column.name ::
      (spell (word (" " ++ operatorSymbol p.operator ++ " ")) ++ .param (.text p.value) :: ts) := by
  have h : (predicateFragments p).flatMap spell = .name p.column.name ::
      (spell (word (" " ++ operatorSymbol p.operator ++ " ")) ++ [.param (.text p.value)]) := rfl
  rw [h, List.cons_append, List.append_assoc, List.singleton_append]

theorem predicate_append_inj (p q : Predicate) (ts ts' : List (Token Value))
    (h : (predicateFragments p).flatMap spell ++ ts = (predicateFragments q).flatMap spell ++ ts') :
    (p.column = q.column ∧ p.operator = q.operator ∧ p.value = q.value) ∧ ts = ts' := by
  rw [spell_predicate, spell_predicate] at h
  obtain ⟨hname, hrest⟩ := List.cons.inj h
  obtain ⟨hop, hvalue, hts⟩ := word_append_inj _ _ _ _ _ _ rfl rfl hrest
  exact ⟨⟨Column.name_injective (Token.name.inj hname), operatorWord_inj _ _ hop,
    Value.text.inj (Token.param.inj hvalue)⟩, hts⟩

theorem spell_joinedPredicate (p : Predicate) (ps : List Predicate) (ts : List (Token Value)) :
    ((p :: ps).flatMap joinedPredicate).flatMap spell ++ ts =
      spell (word (" " ++ connectiveSymbol p.connective ++ " ")) ++
        ((predicateFragments p).flatMap spell ++
          ((ps.flatMap joinedPredicate).flatMap spell ++ ts)) := by
  simp only [List.flatMap_cons, joinedPredicate, List.flatMap_append, List.append_assoc]

theorem spell_filter (p : Predicate) (ps : List Predicate) (ts : List (Token Value)) :
    (filterFragments (p :: ps)).flatMap spell ++ ts =
      spell (word " WHERE ") ++ ((predicateFragments p).flatMap spell ++
        ((ps.flatMap joinedPredicate).flatMap spell ++ ts)) := by
  simp only [filterFragments, List.cons_append, List.flatMap_cons, List.flatMap_append,
    List.append_assoc]

theorem spell_pagination (p : Pagination) :
    (paginationFragments p ++ [word ";"]).flatMap spell =
      if p.limit = 0 then spell (word ";")
      else spell (word " LIMIT ") ++ .param (.ofUInt64 p.limit) ::
        (spell (word " OFFSET ") ++ .param (.ofUInt64 p.offset) :: spell (word ";")) := by
  rw [paginationFragments_eq]
  split <;> rfl

theorem pagination_inj (p q : Pagination)
    (h : (paginationFragments p ++ [word ";"]).flatMap spell =
      (paginationFragments q ++ [word ";"]).flatMap spell) : p.canonical = q.canonical := by
  rw [spell_pagination, spell_pagination] at h
  unfold Pagination.canonical
  split at h <;> split at h
  · next hp hq => rw [if_pos hp, if_pos hq]
  · exact absurd h (symbols_ne_mark _ _ _ _ rfl)
  · exact absurd h.symm (symbols_ne_mark _ _ _ _ rfl)
  · next hp hq =>
    rw [if_neg hp, if_neg hq]
    obtain ⟨_, hlimit, hrest⟩ := word_append_inj _ _ _ _ _ _ rfl rfl h
    obtain ⟨_, hoffset, _⟩ := word_append_inj _ _ _ _ _ _ rfl rfl hrest
    rw [(Value.ofUInt64_inj _ _).mp (Token.param.inj hlimit),
      (Value.ofUInt64_inj _ _).mp (Token.param.inj hoffset)]

/-- What follows a filter has a value or nothing behind its first word, never a name. -/
theorem pagination_ne_name (p : Pagination) (w n : String) (ts : List (Token Value)) :
    (paginationFragments p ++ [word ";"]).flatMap spell ≠ spell (word w) ++ .name n :: ts := by
  intro h
  rw [spell_pagination] at h
  split at h
  · exact symbols_ne_mark _ _ _ _ rfl h
  · obtain ⟨_, hmark, _⟩ := word_append_inj _ _ _ _ _ _ rfl rfl h
    cases hmark

/-- Conditions end where a window or the semicolon begins. -/
theorem joined_inj (ps qs : List Predicate) (page page' : Pagination)
    (h : (ps.flatMap joinedPredicate).flatMap spell ++
        (paginationFragments page ++ [word ";"]).flatMap spell =
      (qs.flatMap joinedPredicate).flatMap spell ++
        (paginationFragments page' ++ [word ";"]).flatMap spell) :
    ps = qs ∧ page.canonical = page'.canonical := by
  have hend (q : Predicate) (qs : List Predicate) (page : Pagination) (ts : List (Token Value))
      (h : (paginationFragments page ++ [word ";"]).flatMap spell =
        ((q :: qs).flatMap joinedPredicate).flatMap spell ++ ts) : False := by
    rw [spell_joinedPredicate, spell_predicate] at h
    exact pagination_ne_name page _ _ _ h
  -- Both rows are taken off from the left; neither can go on where the other has ended.
  induction ps generalizing qs with
  | nil =>
    cases qs with
    | nil => exact ⟨rfl, pagination_inj page page' h⟩
    | cons q qs => exact (hend q qs page _ h).elim
  | cons p ps ih =>
    cases qs with
    | nil => exact (hend p ps page' _ h.symm).elim
    | cons q qs =>
      rw [spell_joinedPredicate, spell_joinedPredicate, spell_predicate, spell_predicate] at h
      obtain ⟨hword, hname, hrest⟩ := word_append_inj _ _ _ _ _ _ rfl rfl h
      have hp := List.cons_eq_cons.mpr ⟨hname, hrest⟩
      rw [← spell_predicate, ← spell_predicate] at hp
      obtain ⟨⟨hc, ho, hv⟩, hts⟩ := predicate_append_inj p q _ _ hp
      obtain ⟨hps, hpage⟩ := ih qs hts
      have hpq : p = q := by
        obtain ⟨pc, _, _, _⟩ := p
        obtain ⟨qc, _, _, _⟩ := q
        cases hc
        cases ho
        cases hv
        rw [connectiveWord_inj pc qc hword]
      exact ⟨by rw [hpq, hps], hpage⟩

theorem commaSeparated_flatMap (g : List Fragment) (gs : List (List Fragment)) :
    word ", " :: commaSeparated (g :: gs) = (g :: gs).flatMap (word ", " :: ·) := by
  induction gs generalizing g with
  | nil => simp only [commaSeparated_singleton, List.flatMap_cons, List.flatMap_nil,
      List.append_nil]
  | cons g' gs ih =>
    rw [commaSeparated_cons, ih]
    rfl

theorem spell_idCondition (id : Int64) : (idCondition id ++ [word ";"]).flatMap spell =
    spell (word " WHERE ") ++ .name idColumn ::
      (spell (word " = ") ++ .param (.int id) :: spell (word ";")) := rfl

theorem idCondition_inj (id id' : Int64)
    (h : (idCondition id ++ [word ";"]).flatMap spell =
      (idCondition id' ++ [word ";"]).flatMap spell) : id = id' := by
  rw [spell_idCondition, spell_idCondition] at h
  obtain ⟨_, _, hrest⟩ := word_append_inj _ _ _ _ _ _ rfl rfl h
  obtain ⟨_, hid, _⟩ := word_append_inj _ _ _ _ _ _ rfl rfl hrest
  exact Value.int.inj (Token.param.inj hid)

theorem spell_listed (a : Column × Value) (as : List (Column × Value)) (ts : List (Token Value)) :
    (((a :: as).map assignmentFragments).flatMap (word ", " :: ·)).flatMap spell ++ ts =
      spell (word ", ") ++ .name a.1.name :: (spell (word " = ") ++ .param a.2 ::
        (((as.map assignmentFragments).flatMap (word ", " :: ·)).flatMap spell ++ ts)) := by
  have h : (word ", " :: assignmentFragments a).flatMap spell =
      spell (word ", ") ++ .name a.1.name :: (spell (word " = ") ++ [.param a.2]) := rfl
  rw [List.map_cons, List.flatMap_cons, List.flatMap_append, h]
  simp only [List.append_assoc, List.cons_append, List.nil_append]

/-- Assignments, each behind a comma, end where the condition on the id begins. -/
theorem listed_inj (as bs : List (Column × Value)) (id id' : Int64)
    (h : ((as.map assignmentFragments).flatMap (word ", " :: ·)).flatMap spell ++
        (idCondition id ++ [word ";"]).flatMap spell =
      ((bs.map assignmentFragments).flatMap (word ", " :: ·)).flatMap spell ++
        (idCondition id' ++ [word ";"]).flatMap spell) :
    as = bs ∧ id = id' := by
  have hend (b : Column × Value) (bs : List (Column × Value)) (id : Int64)
      (ts : List (Token Value))
      (h : (idCondition id ++ [word ";"]).flatMap spell =
        (((b :: bs).map assignmentFragments).flatMap (word ", " :: ·)).flatMap spell ++ ts) :
      False := by
    rw [spell_listed, spell_idCondition] at h
    have hw := (word_append_inj _ _ _ _ _ _ rfl rfl h).1
    revert hw
    decide
  induction as generalizing bs with
  | nil =>
    cases bs with
    | nil => exact ⟨rfl, idCondition_inj id id' h⟩
    | cons b bs => exact (hend b bs id _ h).elim
  | cons a as ih =>
    cases bs with
    | nil => exact (hend a as id' _ h.symm).elim
    | cons b bs =>
      rw [spell_listed, spell_listed] at h
      obtain ⟨_, hname, hrest⟩ := word_append_inj _ _ _ _ _ _ rfl rfl h
      obtain ⟨_, hvalue, hts⟩ := word_append_inj _ _ _ _ _ _ rfl rfl hrest
      obtain ⟨has, hid⟩ := ih bs hts
      have hab : a = b := Prod.ext (Column.name_injective (Token.name.inj hname))
        (Token.param.inj hvalue)
      exact ⟨by rw [hab, has], hid⟩

inductive Statement.Kind where
  | createTable (ifNotExists : Bool)
  | dropTable (ifExists : Bool)
  | delete
  | insert
  | update
  | select

namespace Statement

def kind : Statement → Kind
  | createTable ifNotExists => .createTable ifNotExists
  | dropTable ifExists => .dropTable ifExists
  | run (.deleteById _) => .delete
  | run (.insert _) => .insert
  | run (.updateById ..) => .update
  | run (.getById _) | run (.query ..) => .select

def Kind.opening : Kind → String
  | createTable true => "CREATE TABLE IF NOT EXISTS "
  | createTable false => "CREATE TABLE "
  | dropTable true => "DROP TABLE IF EXISTS "
  | dropTable false => "DROP TABLE "
  | delete => "DELETE FROM "
  | insert => "INSERT INTO "
  | update => "UPDATE "
  | select => "SELECT "

def Kind.beforeTable : Kind → List Fragment
  | select => rowColumns ++ [word " FROM "]
  | _ => []

def afterTable : Statement → List Fragment
  | createTable _ =>
    [word " (", name idColumn, word " SERIAL PRIMARY KEY, "] ++
      commaSeparated (Column.all.map columnDefinition) ++ [word ")", word ";"]
  | dropTable _ => [word ";"]
  | run (.deleteById id) | run (.getById id) => idCondition id ++ [word ";"]
  | run (.insert cars) =>
    word " (" :: columnList ++ word ") VALUES " :: commaSeparated (cars.map carFragments) ++
      [word " ON CONFLICT (", name Column.regNum.name, word ") DO NOTHING", word ";"]
  | run (.query filter page) => filterFragments filter ++ (paginationFragments page ++ [word ";"])
  | run (.updateById id patch) =>
    word " SET " :: commaSeparated (patch.assignments.map assignmentFragments) ++
      (idCondition id ++ [word ";"])

end Statement

/-- What stands in front of a statement's own part: its opening word and what follows up to the name
of the table. -/
def Statement.Kind.front (k : Statement.Kind) (table : String) : List Fragment :=
  word k.opening :: k.beforeTable ++ [name table]

theorem spell_fragments (table : String) (stmt : Statement) :
    (stmt.fragments table ++ [word ";"]).flatMap spell =
      (stmt.kind.front table).flatMap spell ++ stmt.afterTable.flatMap spell := by
  rw [Statement.Kind.front, ← List.flatMap_append, List.append_assoc]
  cases stmt with
  | createTable ifNotExists =>
    simp only [Statement.fragments, Statement.kind, Statement.Kind.beforeTable,
      Statement.afterTable, List.append_assoc, List.cons_append, List.nil_append]
    cases ifNotExists <;> rfl
  | dropTable ifExists => cases ifExists <;> rfl
  | run op =>
    cases op <;> simp only [Statement.fragments, Statement.kind, Statement.Kind.beforeTable,
      Statement.Kind.opening, Statement.afterTable, List.append_assoc, List.cons_append,
      List.nil_append]

theorem opening_inj (k k' : Statement.Kind) (h : k.opening = k'.opening) : k = k' := by
  rcases k with (_ | _) | (_ | _) | _ | _ | _ | _ <;>
    rcases k' with (_ | _) | (_ | _) | _ | _ | _ | _ <;>
    first | rfl | exact absurd h (by decide)

/-- Text begins with the kind of its statement, and the table follows. -/
theorem spell_front_inj (k k' : Statement.Kind) (table table' : String)
    (rest rest' : List (Token Value))
    (h : (k.front table).flatMap spell ++ rest = (k'.front table').flatMap spell ++ rest') :
    k = k' ∧ table = table' ∧ rest = rest' := by
  -- Behind its opening word every statement has a name: that of the table or of the first column.
  have hmark (k : Statement.Kind) (table : String) (rest : List (Token Value)) : ∃ n ts,
      (k.front table).flatMap spell ++ rest = spell (word k.opening) ++ .name n :: ts := by
    cases k with
    | select => exact ⟨idColumn, _, rfl⟩
    | _ => exact ⟨table, rest, by rw [List.append_cons]; rfl⟩
  obtain ⟨n, ts, hs⟩ := hmark k table rest
  obtain ⟨n', ts', hs'⟩ := hmark k' table' rest'
  have hkind : k = k' := opening_inj _ _ (word_append_inj _ _ _ _ _ _ rfl rfl (hs ▸ hs' ▸ h)).1
  subst hkind
  rw [Statement.Kind.front, Statement.Kind.front, List.flatMap_append, List.flatMap_append,
    List.append_assoc, List.append_assoc] at h
  obtain ⟨htable, hrest⟩ := List.cons.inj (List.append_cancel_left h)
  exact ⟨rfl, Token.name.inj htable, hrest⟩

theorem spell_fragments_inj (table table' : String) (stmt stmt' : Statement)
    (h : (stmt.fragments table ++ [word ";"]).flatMap spell =
      (stmt'.fragments table' ++ [word ";"]).flatMap spell) :
    stmt.kind = stmt'.kind ∧ table = table' ∧
      stmt.afterTable.flatMap spell = stmt'.afterTable.flatMap spell := by
  rw [spell_fragments, spell_fragments] at h
  exact spell_front_inj _ _ _ _ _ _ h

theorem params_spell (fs : List Fragment) :
    (fs.flatMap spell).filterMap Token.param? = values fs := by
  induction fs with
  | nil => rfl
  | cons f fs ih =>
    rw [List.flatMap_cons, List.filterMap_append, ih]
    cases f with
    | word w =>
      have hw : (spell (word w)).filterMap Token.param? = [] :=
        List.filterMap_eq_nil_iff.mpr fun t ht => by
          obtain ⟨c, _, rfl⟩ := List.mem_map.mp ht
          rfl
      rw [hw]
      rfl
    | name n => rfl
    | bind v => rfl

/-- The rows of a batch have seven values each, so their values hold each record up to its id. -/
theorem cars_of_values (cars cars' : List Car)
    (h : cars.flatMap (fun car => Column.all.map car.value) =
      cars'.flatMap (fun car => Column.all.map car.value)) :
    cars.map (fun car => { car with id := 0 }) = cars'.map (fun car => { car with id := 0 }) := by
  induction cars generalizing cars' with
  | nil =>
    cases cars' with
    | nil => rfl
    | cons car' cars' => cases h
  | cons car cars ih =>
    cases cars' with
    | nil => cases h
    | cons car' cars' =>
      rw [List.flatMap_cons, List.flatMap_cons] at h
      obtain ⟨hcar, hrest⟩ := List.append_inj h rfl
      have hvalue (c : Column) : car.value c = car'.value c :=
        List.map_inj_left.mp hcar c c.mem_all
      rw [List.map_cons, List.map_cons, ih cars' hrest, Car.eq_of_value car car' hvalue]

theorem values_afterTable (cars : List Car) :
    values (Statement.run (.insert cars)).afterTable =
      cars.flatMap fun car => Column.all.map car.value := by
  have hcolumns : values columnList = [] := rfl
  have hconflict : values [word " ON CONFLICT (", name Column.regNum.name, word ") DO NOTHING",
    word ";"] = [] := rfl
  simp only [Statement.afterTable, values_append, values_word, hcolumns, hconflict,
    values_commaSeparated, List.flatMap_map, List.nil_append, List.append_nil]
  rfl

/-- A filter ends where its window begins. -/
theorem query_of_spell (filter filter' : Filter) (page page' : Pagination)
    (h : (filterFragments filter).flatMap spell ++
        (paginationFragments page ++ [word ";"]).flatMap spell =
      (filterFragments filter').flatMap spell ++
        (paginationFragments page' ++ [word ";"]).flatMap spell) :
    filter.canonical = filter'.canonical ∧ page.canonical = page'.canonical := by
  have hnil (q : Predicate) (qs : List Predicate) (page : Pagination) (ts : List (Token Value))
      (h : (paginationFragments page ++ [word ";"]).flatMap spell =
        (filterFragments (q :: qs)).flatMap spell ++ ts) : False := by
    rw [spell_filter, spell_predicate] at h
    exact pagination_ne_name page _ _ _ h
  cases filter with
  | nil =>
    cases filter' with
    | nil => exact ⟨rfl, pagination_inj page page' h⟩
    | cons q qs => exact (hnil q qs page _ h).elim
  | cons p ps =>
    cases filter' with
    | nil => exact (hnil p ps page' _ h.symm).elim
    | cons q qs =>
      -- The connectives of `p` and `q` are not in the tokens, so only the rest is equal as it is.
      rw [spell_filter, spell_filter] at h
      obtain ⟨⟨hc, ho, hv⟩, hrest⟩ := predicate_append_inj p q _ _ (List.append_cancel_left h)
      obtain ⟨hps, hpage⟩ := joined_inj ps qs page page' hrest
      refine ⟨?_, hpage⟩
      simp only [Filter.canonical, hc, ho, hv, hps]

/-- A look-up by id is no listing: the first name of its condition is no column of a filter. -/
theorem idCondition_ne_query (id : Int64) (filter : Filter) (page : Pagination) :
    (idCondition id ++ [word ";"]).flatMap spell ≠
      (filterFragments filter).flatMap spell ++
        (paginationFragments page ++ [word ";"]).flatMap spell := by
  intro h
  rw [spell_idCondition] at h
  cases filter with
  | nil => exact pagination_ne_name page _ _ _ h.symm
  | cons p ps =>
    rw [spell_filter, spell_predicate] at h
    obtain ⟨_, hname, _⟩ := word_append_inj _ _ _ _ _ _ rfl rfl h
    have hcolumn := Token.name.inj hname
    revert hcolumn
    cases p.column <;> decide

theorem assignments_of_spell (as bs : List (Column × Value)) (ha : as ≠ []) (hb : bs ≠ [])
    (id id' : Int64)
    (h : (commaSeparated (as.map assignmentFragments)).flatMap spell ++
        (idCondition id ++ [word ";"]).flatMap spell =
      (commaSeparated (bs.map assignmentFragments)).flatMap spell ++
        (idCondition id' ++ [word ";"]).flatMap spell) :
    as = bs ∧ id = id' := by
  -- With a comma in front of the first assignment too, all assignments look alike.
  have hcomma (a : Column × Value) (as : List (Column × Value)) :
      (((a :: as).map assignmentFragments).flatMap (word ", " :: ·)).flatMap spell =
        spell (word ", ") ++
          (commaSeparated ((a :: as).map assignmentFragments)).flatMap spell := by
    rw [List.map_cons, ← commaSeparated_flatMap, List.flatMap_cons]
  cases as with
  | nil => exact absurd rfl ha
  | cons a as =>
    cases bs with
    | nil => exact absurd rfl hb
    | cons b bs =>
      apply listed_inj
      rw [hcomma, hcomma, List.append_assoc, List.append_assoc, h]

theorem patch_of_assignments (p q : CarPatch) (h : p.assignments = q.assignments) :
    p.canonical = q.canonical := by
  refine CarPatch.canonical_of_value p q fun c => Option.ext fun v => ?_
  rw [← p.mem_assignments, ← q.mem_assignments, h]

theorem assignments_ne_nil (id : Int64) (patch : CarPatch)
    (h : ¬ (Statement.run (.updateById id patch)).Vacant) : patch.assignments ≠ [] := by
  intro hnil
  refine h fun c => Option.eq_none_iff_forall_ne_some.mpr fun v hv => ?_
  have hmem := (patch.mem_assignments c v).mpr hv
  rw [hnil] at hmem
  cases hmem

/-- One case for each kind of statement. -/
theorem canonical_of_spell (stmt stmt' : Statement) (hv : ¬ stmt.Vacant) (hv' : ¬ stmt'.Vacant)
    (hk : stmt.kind = stmt'.kind)
    (h : stmt.afterTable.flatMap spell = stmt'.afterTable.flatMap spell) :
    stmt.canonical = stmt'.canonical := by
  -- Only look-ups and listings are of one kind without being made alike.
  cases stmt with
  | createTable a =>
    cases stmt' with
    | createTable b =>
      cases hk
      rfl
    | dropTable b => cases hk
    | run op => cases op <;> cases hk
  | dropTable a =>
    cases stmt' with
    | createTable b => cases hk
    | dropTable b =>
      cases hk
      rfl
    | run op => cases op <;> cases hk
  | run op =>
    cases stmt' with
    | createTable b => cases op <;> cases hk
    | dropTable b => cases op <;> cases hk
    | run op' =>
      cases op with
      | deleteById id =>
        cases op' with
        | deleteById id' => rw [idCondition_inj id id' h]
        | _ => cases hk
      | getById id =>
        cases op' with
        | getById id' => rw [idCondition_inj id id' h]
        | query filter page =>
          exact absurd (h.trans List.flatMap_append) (idCondition_ne_query id filter page)
        | _ => cases hk
      | query filter page =>
        cases op' with
        | getById id' =>
          exact absurd (h.symm.trans List.flatMap_append) (idCondition_ne_query id' filter page)
        | query filter' page' =>
          obtain ⟨hf, hp⟩ := query_of_spell filter filter' page page'
            (List.flatMap_append.symm.trans (h.trans List.flatMap_append))
          simp only [Statement.canonical, hf, hp]
        | _ => cases hk
      | insert cars =>
        cases op' with
        | insert cars' =>
          -- The rows of a batch are told apart by their values alone.
          have hvalues := congrArg (List.filterMap Token.param?) h
          rw [params_spell, params_spell, values_afterTable, values_afterTable] at hvalues
          simp only [Statement.canonical, cars_of_values cars cars' hvalues]
        | _ => cases hk
      | updateById id patch =>
        cases op' with
        | updateById id' patch' =>
          obtain ⟨ha, hid⟩ := assignments_of_spell patch.assignments patch'.assignments
            (assignments_ne_nil id patch hv) (assignments_ne_nil id' patch' hv') id id'
            (List.flatMap_append.symm.trans ((List.append_cancel_left h).trans List.flatMap_append))
          simp only [Statement.canonical, hid, patch_of_assignments patch patch' ha]
        | _ => cases hk

/-- Text and parameters together determine the table and the canonical statement, and they are
determined by them. -/
theorem compile_determines_statement (table table' : String) (before : List Value)
    (stmt stmt' : Statement) :
    (∀ c, compile table before stmt = .ok c → compile table' before stmt' = .ok c →
      table = table' ∧ stmt.canonical = stmt'.canonical) ∧
    (stmt.canonical = stmt'.canonical →
      compile table before stmt = compile table before stmt') := by
  constructor
  · intro c hc hc'
    have hread := (read_compile table before stmt c hc).symm.trans
      (read_compile table' before stmt' c hc')
    have hspell := congrArg (List.map (Token.map Prod.snd)) (Option.some.inj hread)
    rw [numbered_values, numbered_values] at hspell
    obtain ⟨hk, ht, hafter⟩ := spell_fragments_inj table table' stmt stmt' hspell
    exact ⟨ht, canonical_of_spell stmt stmt' (not_vacant_of_compile _ _ _ _ hc)
      (not_vacant_of_compile _ _ _ _ hc') hk hafter⟩
  · intro h
    rw [← compile_canonical table before stmt, h, compile_canonical]

end VehicleRecords.Sql
