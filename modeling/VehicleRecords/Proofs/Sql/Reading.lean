import VehicleRecords.Proofs.Sql.Token

/-!
Compiled statements read back: the text of a compiled statement, with its parameters put in the place
of their numbers, is read as the statement's fragments (`read_compile`).
-/
namespace VehicleRecords.Sql

namespace Fragment

/-- The tokens of fragments. A bound value comes with its number; `bound` values precede the first. -/
def numbered (bound : Nat) : List Fragment → List (Token (Nat × Value))
  | [] => []
  | word w :: rest => w.toList.map .symbol ++ numbered bound rest
  | name n :: rest => .name n :: numbered bound rest
  | bind v :: rest => .param (bound + 1, v) :: numbered (bound + 1) rest

/-- The fragments begin with no name, and so their text with no quote. -/
def startsPlain : List Fragment → Bool
  | word w :: _ => w != ""
  | name _ :: _ => false
  | _ => true

/-- Words are plain, and no name touches a name, so that reading finds every fragment again. -/
def Legible : List Fragment → Prop
  | [] => True
  | word w :: rest => w.toList.all isPlain = true ∧ Legible rest
  | name _ :: rest => startsPlain rest = true ∧ Legible rest
  | bind _ :: rest => Legible rest

theorem write_word (bound : Nat) (w : String) (fs : List Fragment) :
    write bound (word w :: fs) = w ++ write bound fs := by
  rw [write, writeOnto, writeOnto_eq, String.empty_append]

theorem write_name (bound : Nat) (n : String) (fs : List Fragment) :
    write bound (name n :: fs) = quoteName n ++ write bound fs := by
  rw [write, writeOnto, writeOnto_eq, String.empty_append]

theorem write_bind (bound : Nat) (v : Value) (fs : List Fragment) :
    write bound (bind v :: fs) = placeholder (bound + 1) ++ write (bound + 1) fs := by
  rw [write, writeOnto, writeOnto_eq, String.empty_append]

theorem head_quoteName (n : String) (s : List Char) :
    ((quoteName n).toList ++ s).head? = some '"' := by
  simp only [quoteName, String.toList_ofList, List.cons_append, List.head?_cons]

theorem head_placeholder (n : Nat) (s : List Char) :
    ((placeholder n).toList ++ s).head? = some '$' := by
  rw [placeholder, String.toList_append]
  rfl

/-- A word of legible fragments that is not empty begins with a plain character. -/
theorem head_plain (w : String) (s : List Char) (hw : w ≠ "") (hp : w.toList.all isPlain = true) :
    ∃ c, (w.toList ++ s).head? = some c ∧ isPlain c = true := by
  cases hl : w.toList with
  | nil => exact absurd (String.toList_eq_nil_iff.mp hl) hw
  | cons c cs =>
    rw [hl, List.all_cons, Bool.and_eq_true] at hp
    exact ⟨c, rfl, hp.1⟩

/-- The text behind a placeholder begins with no digit, so its number ends there. -/
theorem head_write_not_digit (bound : Nat) (fs : List Fragment) (h : Legible fs) :
    ∀ c ∈ (write bound fs).toList.head?, c.isDigit = false := by
  induction fs with
  | nil => intro c hc; cases hc
  | cons f fs ih =>
    cases f with
    | word w =>
      rw [write_word, String.toList_append]
      by_cases hw : w = ""
      · subst hw
        exact ih h.2
      · obtain ⟨d, hd, hp⟩ := head_plain w (write bound fs).toList hw h.1
        intro c hc
        rw [hd] at hc
        cases hc
        simp only [isPlain, Bool.and_eq_true, Bool.not_eq_true'] at hp
        exact hp.2
    | name n =>
      rw [write_name, String.toList_append, head_quoteName]
      intro c hc
      cases hc
      rfl
    | bind v =>
      rw [write_bind, String.toList_append, head_placeholder]
      intro c hc
      cases hc
      rfl

/-- The text behind a name begins with no quote, so the name ends there. -/
theorem head_write_not_quote (bound : Nat) (fs : List Fragment) (h : Legible fs)
    (hq : startsPlain fs = true) : (write bound fs).toList.head? ≠ some '"' := by
  cases fs with
  | nil => intro hc; cases hc
  | cons f fs =>
    cases f with
    | word w =>
      obtain ⟨c, hc, hp⟩ := head_plain w (write bound fs).toList (bne_iff_ne.mp hq) h.1
      rw [write_word, String.toList_append, hc]
      rintro ⟨rfl⟩
      revert hp
      decide
    | name n => cases hq
    | bind v =>
      rw [write_bind, String.toList_append, head_placeholder]
      decide

/-- Legible fragments are read back from their text. -/
theorem tokens_write (bound : Nat) (fs : List Fragment) (h : Legible fs) :
    tokens (write bound fs).toList = (numbered bound fs).map (Token.map Prod.fst) := by
  induction fs generalizing bound with
  | nil => simp [write, writeOnto, numbered, tokens]
  | cons f fs ih =>
    cases f with
    | word w =>
      rw [write_word, String.toList_append, tokens_append_plain _ _ h.1, ih bound h.2, numbered,
        List.map_append, List.map_map]
      rfl
    | name n =>
      rw [write_name, String.toList_append,
        tokens_quoteName _ _ (head_write_not_quote bound fs h.2 h.1), ih bound h.2]
      rfl
    | bind v =>
      rw [write_bind, String.toList_append,
        tokens_placeholder _ _ (head_write_not_digit (bound + 1) fs h), ih (bound + 1) h]
      rfl

theorem startsPlain_append (fs gs : List Fragment) (hf : startsPlain fs = true)
    (hg : startsPlain gs = true) : startsPlain (fs ++ gs) = true := by
  cases fs with
  | nil => exact hg
  | cons f fs => cases f <;> exact hf

theorem legible_append (fs gs : List Fragment) (hf : Legible fs) (hg : Legible gs)
    (hq : startsPlain gs = true) : Legible (fs ++ gs) := by
  induction fs with
  | nil => exact hg
  | cons f fs ih =>
    cases f with
    | word w => exact ⟨hf.1, ih hf.2⟩
    | name n => exact ⟨startsPlain_append fs gs hf.1 hq, ih hf.2⟩
    | bind v => exact ih hf

theorem legible_flatMap {α : Type} (g : α → List Fragment) (xs : List α)
    (hg : ∀ x ∈ xs, Legible (g x) ∧ startsPlain (g x) = true) :
    Legible (xs.flatMap g) ∧ startsPlain (xs.flatMap g) = true := by
  induction xs with
  | nil => exact ⟨trivial, rfl⟩
  | cons x xs ih =>
    obtain ⟨hl, hq⟩ := hg x List.mem_cons_self
    obtain ⟨hls, hqs⟩ := ih fun y hy => hg y (List.mem_cons_of_mem x hy)
    rw [List.flatMap_cons]
    exact ⟨legible_append _ _ hl hls hqs, startsPlain_append _ _ hq hqs⟩

theorem commaSeparated_cons (g g' : List Fragment) (gs : List (List Fragment)) :
    commaSeparated (g :: g' :: gs) = g ++ word ", " :: commaSeparated (g' :: gs) := by
  simp only [commaSeparated, List.intercalate_cons_cons, List.append_assoc, List.cons_append,
    List.nil_append]

theorem commaSeparated_singleton (g : List Fragment) : commaSeparated [g] = g := by
  simp only [commaSeparated, List.intercalate_singleton]

theorem legible_commaSeparated {α : Type} (g : α → List Fragment) (xs : List α)
    (h : ∀ x, Legible (g x)) : Legible (commaSeparated (xs.map g)) := by
  induction xs with
  | nil => exact trivial
  | cons x xs ih =>
    cases xs with
    | nil =>
      rw [List.map_cons, List.map_nil, commaSeparated_singleton]
      exact h x
    | cons y ys =>
      rw [List.map_cons, List.map_cons, commaSeparated_cons]
      exact legible_append _ _ (h x) ⟨by decide, ih⟩ rfl

end Fragment

open Fragment

theorem legible_predicate (p : Predicate) : Legible (predicateFragments p) := by
  have hw (o : Operator) : (" " ++ operatorSymbol o ++ " " != "") = true ∧
      (" " ++ operatorSymbol o ++ " ").toList.all isPlain = true := by
    cases o <;> decide
  exact ⟨(hw p.operator).1, (hw p.operator).2, trivial⟩

theorem legible_joinedPredicate (p : Predicate) :
    Legible (joinedPredicate p) ∧ startsPlain (joinedPredicate p) = true := by
  have hw (c : Connective) : (" " ++ connectiveSymbol c ++ " ").toList.all isPlain = true ∧
      (" " ++ connectiveSymbol c ++ " " != "") = true := by
    cases c <;> decide
  exact ⟨⟨(hw p.connective).1, legible_predicate p⟩, (hw p.connective).2⟩

theorem legible_filter (filter : Filter) :
    Legible (filterFragments filter) ∧ startsPlain (filterFragments filter) = true := by
  cases filter with
  | nil => exact ⟨trivial, rfl⟩
  | cons first rest =>
    have hj := legible_flatMap joinedPredicate rest fun p _ => legible_joinedPredicate p
    exact ⟨⟨by decide, legible_append _ _ (legible_predicate first) hj.1 hj.2⟩,
      rfl⟩

theorem isEnabled_iff (p : Pagination) : p.isEnabled = true ↔ p.limit ≠ 0 := bne_iff_ne

theorem paginationFragments_eq (p : Pagination) :
    paginationFragments p =
      if p.limit = 0 then []
      else [word " LIMIT ", bind (.ofUInt64 p.limit), word " OFFSET ",
        bind (.ofUInt64 p.offset)] := by
  simp only [paginationFragments, isEnabled_iff, ite_not]

theorem legible_pagination (p : Pagination) :
    Legible (paginationFragments p) ∧ startsPlain (paginationFragments p) = true := by
  rw [paginationFragments_eq]
  split
  · exact ⟨trivial, rfl⟩
  · exact ⟨⟨by decide, by decide, trivial⟩, rfl⟩

theorem legible_columnList : Legible columnList :=
  legible_commaSeparated _ _ fun _ => ⟨rfl, trivial⟩

theorem legible_rowColumns : Legible rowColumns :=
  ⟨rfl, by decide, legible_columnList⟩

theorem legible_idCondition (id : Int64) : Legible (idCondition id) :=
  ⟨by decide, rfl, by decide, trivial⟩

theorem legible_car (car : Car) : Legible (carFragments car) := by
  have hvalues := legible_commaSeparated (fun c => [bind (car.value c)]) Column.all fun _ => trivial
  exact ⟨by decide, legible_append _ _ hvalues ⟨by decide, trivial⟩ rfl⟩

theorem legible_assignment (a : Column × Value) : Legible (assignmentFragments a) :=
  ⟨rfl, by decide, trivial⟩

theorem legible_columnDefinition (c : Column) : Legible (columnDefinition c) := by
  cases c <;> exact ⟨rfl, by decide, trivial⟩

/-- Whatever the table is called and whatever values are bound, the text of a statement can be
read. -/
theorem legible_fragments (table : String) (stmt : Statement) :
    Legible (stmt.fragments table ++ [word ";"]) := by
  refine legible_append _ _ ?_ ⟨by decide, trivial⟩ rfl
  cases stmt with
  | createTable ifNotExists =>
    have hcolumns := legible_commaSeparated columnDefinition Column.all legible_columnDefinition
    have hrest := legible_append _ [word ")"] hcolumns ⟨by decide, trivial⟩ rfl
    cases ifNotExists <;> exact ⟨by decide, by decide, rfl, by decide, rfl, by decide, hrest⟩
  | dropTable ifExists =>
    cases ifExists <;> exact ⟨by decide, by decide, rfl, trivial⟩
  | run op =>
    cases op with
    | insert cars =>
      have hcars := legible_commaSeparated carFragments cars legible_car
      simp only [Statement.fragments, List.cons_append, List.append_assoc]
      exact ⟨by decide, rfl, by decide, legible_append _ _ legible_columnList
        ⟨by decide, legible_append _ _ hcars ⟨by decide, rfl, by decide, trivial⟩ rfl⟩ rfl⟩
    | deleteById id => exact ⟨by decide, rfl, legible_idCondition id⟩
    | getById id =>
      exact ⟨by decide, legible_append _ _ legible_rowColumns
        ⟨by decide, rfl, legible_idCondition id⟩ rfl⟩
    | query filter pagination =>
      obtain ⟨hf, hfq⟩ := legible_filter filter
      obtain ⟨hp, hpq⟩ := legible_pagination pagination
      have htail := legible_append _ _ hf hp hpq
      have hq := startsPlain_append _ _ hfq hpq
      simp only [Statement.fragments, List.cons_append, List.append_assoc]
      exact ⟨by decide, legible_append _ _ legible_rowColumns ⟨by decide, hq, htail⟩ rfl⟩
    | updateById id patch =>
      have hassign := legible_commaSeparated assignmentFragments patch.assignments
        legible_assignment
      exact ⟨by decide, rfl, by decide, legible_append _ _ hassign (legible_idCondition id) rfl⟩

/-- The parameter that a placeholder stands for, with its number. -/
def lookup (params : List Value) : Nat → Option (Nat × Value)
  | 0 => none
  | n + 1 => params[n]?.map (n + 1, ·)

def Token.resolve (params : List Value) : Token Nat → Option (Token (Nat × Value))
  | symbol c => some (symbol c)
  | name s => some (name s)
  | param n => (lookup params n).map param

/-- The tokens of a compiled statement, unless it has a placeholder without a parameter. -/
def Compiled.read (c : Compiled) : Option (List (Token (Nat × Value))) :=
  (tokens c.sql.toList).mapM (Token.resolve c.params)

theorem lookup_append (before after : List Value) (v : Value) :
    lookup (before ++ v :: after) (before.length + 1) = some (before.length + 1, v) := by
  rw [lookup, List.getElem?_append_right (Nat.le_refl _), Nat.sub_self]
  rfl

theorem values_bind (v : Value) (fs : List Fragment) : values (bind v :: fs) = v :: values fs :=
  rfl

/-- The placeholders of fragments stand for the fragments' own values. -/
theorem resolve_numbered (before : List Value) (fs : List Fragment) :
    ((numbered before.length fs).map (Token.map Prod.fst)).mapM
      (Token.resolve (before ++ values fs)) = some (numbered before.length fs) := by
  induction fs generalizing before with
  | nil => rfl
  | cons f fs ih =>
    cases f with
    | word w =>
      have hw (cs : List Char) (params : List Value) :
          ((cs.map (Token.symbol (α := Nat × Value))).map (Token.map Prod.fst)).mapM
            (Token.resolve params) = some (cs.map .symbol) := by
        induction cs with
        | nil => rfl
        | cons c cs ihc =>
          simp only [List.map_cons, List.mapM_cons, ihc, Token.map, Token.resolve]
          rfl
      have hv : values (word w :: fs) = values fs := rfl
      rw [numbered, List.map_append, List.mapM_append, hw, hv, ih before]
      rfl
    | name n =>
      have hv : values (name n :: fs) = values fs := rfl
      rw [numbered, List.map_cons, List.mapM_cons, hv, ih before]
      rfl
    | bind v =>
      have hrest := ih (before ++ [v])
      rw [List.length_append, List.length_singleton, List.append_assoc, List.singleton_append]
        at hrest
      simp only [numbered, List.map_cons, List.mapM_cons, Token.map, Token.resolve, values_bind,
        lookup_append, hrest]
      rfl

/-- A compiled statement is read as its fragments, numbered behind the parameters before it. -/
theorem read_compile (table : String) (before : List Value) (stmt : Statement) (c : Compiled)
    (h : compile table before stmt = .ok c) :
    c.read = some (numbered before.length (stmt.fragments table ++ [word ";"])) := by
  unfold compile at h
  split at h
  · cases h
  · cases h
    rw [Compiled.read, tokens_write _ _ (legible_fragments table stmt)]
    exact resolve_numbered before _

end VehicleRecords.Sql
