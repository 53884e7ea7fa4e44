import VehicleRecords.Proofs.Sql.Numbering
import VehicleRecords.Proofs.Store.Groups
import VehicleRecords.Proofs.Text.Split

/-!
Listing statements as a database reads them. The words of a text are what stands between blanks,
names and values. A condition is cut at `OR` first and then at `AND`, so `AND` binds tighter; its
comparisons are judged on a record's column values. The main statement reads the compiled listing
(`listing_compile`).
-/
namespace VehicleRecords.Sql

open Fragment

inductive Lexeme (α : Type) where
  | word (text : String)
  | name (identifier : String)
  | param (a : α)
  deriving DecidableEq, Repr

section Lexemes

variable {α : Type}

def endWord : List Char → List (Lexeme α)
  | [] => []
  | run => [.word (String.ofList run)]

def lexemesFrom (run : List Char) : List (Token α) → List (Lexeme α)
  | [] => endWord run
  | .symbol c :: rest =>
    if c = ' ' then endWord run ++ lexemesFrom [] rest else lexemesFrom (run ++ [c]) rest
  | .name s :: rest => endWord run ++ .name s :: lexemesFrom [] rest
  | .param a :: rest => endWord run ++ .param a :: lexemesFrom [] rest

def lexemes (ts : List (Token α)) : List (Lexeme α) := lexemesFrom [] ts

end Lexemes

/-- A column compared with a value, which has a number among the parameters. -/
structure Comparison where
  column : Column
  operator : Operator
  number : Nat
  wanted : String
  deriving DecidableEq, Repr

def operatorOfSign? : String → Option Operator
  | "=" => some .eq
  | "<>" => some .ne
  | ">" => some .gt
  | ">=" => some .ge
  | "<" => some .lt
  | "<=" => some .le
  | "LIKE" => some .like
  | _ => none

namespace Comparison

def ofLexemes? : List (Lexeme (Nat × Value)) → Option Comparison
  | [.name column, .word sign, .param (number, .text wanted)] =>
    match Column.ofName? column, operatorOfSign? sign with
    | some column, some operator => some ⟨column, operator, number, wanted⟩
    | _, _ => none
  | _ => none

end Comparison

/-- The comparisons of a condition: groups joined by `OR`, each a row joined by `AND`. -/
def conditionOf? (ls : List (Lexeme (Nat × Value))) : Option (List (List Comparison)) :=
  (Text.cut (.word "OR") ls).mapM fun group =>
    (Text.cut (.word "AND") group).mapM Comparison.ofLexemes?

structure Listing where
  table : String
  condition : Option (List (List Comparison))
  /-- The limit and the offset. -/
  window : Option (Int64 × Int64)
  deriving DecidableEq, Repr

namespace Listing

def whereOf? : List (Lexeme (Nat × Value)) → Option (Option (List (List Comparison)))
  | [] => some none
  | .word "WHERE" :: condition => (conditionOf? condition).map some
  | _ => none

def windowOf? : Option (List (Lexeme (Nat × Value))) → Option (Option (Int64 × Int64))
  | none => some none
  | some [.param (_, .int limit), .word "OFFSET", .param (_, .int offset)] =>
    some (some (limit, offset))
  | _ => none

/-- Reads `SELECT columns FROM table`, then maybe `WHERE` and maybe `LIMIT`, up to the semicolon. -/
def ofLexemes? (ls : List (Lexeme (Nat × Value))) : Option Listing :=
  match Text.cutOnce (.word "FROM") ls with
  | (.word "SELECT" :: _, some (.name table :: rest)) =>
    match Text.cutOnce (.word ";") rest with
    | (body, some []) =>
      let (condition, window) := Text.cutOnce (.word "LIMIT") body
      match whereOf? condition, windowOf? window with
      | some condition, some window => some ⟨table, condition, window⟩
      | _, _ => none
    | _ => none
  | _ => none

end Listing

def Compiled.listing? (c : Compiled) : Option Listing :=
  c.read.bind fun ts => Listing.ofLexemes? (lexemes ts)

/-- The comparisons of a filter whose values have the numbers behind `bound`, each with its
connective. -/
def comparisons (bound : Nat) : Filter → List (Connective × Comparison)
  | [] => []
  | p :: rest =>
    (p.connective, ⟨p.column, p.operator, bound + 1, p.value⟩) :: comparisons (bound + 1) rest

def comparisonLexemes (c : Comparison) : List (Lexeme (Nat × Value)) :=
  [.name c.column.name, .word (operatorSymbol c.operator), .param (c.number, .text c.wanted)]

def joinedLexemes (x : Connective × Comparison) : List (Lexeme (Nat × Value)) :=
  .word (connectiveSymbol x.1) :: comparisonLexemes x.2

theorem lexemes_operator (o : Operator) (ts : List (Token (Nat × Value))) :
    lexemes ((" " ++ operatorSymbol o ++ " ").toList.map .symbol ++ ts) =
      .word (operatorSymbol o) :: lexemes ts := by
  cases o <;> rfl

theorem lexemes_connective (c : Connective) (ts : List (Token (Nat × Value))) :
    lexemes ((" " ++ connectiveSymbol c ++ " ").toList.map .symbol ++ ts) =
      .word (connectiveSymbol c) :: lexemes ts := by
  cases c <;> rfl

theorem lexemes_predicate (bound : Nat) (p : Predicate) (fs : List Fragment) :
    lexemes (numbered bound (predicateFragments p ++ fs)) =
      comparisonLexemes ⟨p.column, p.operator, bound + 1, p.value⟩ ++
        lexemes (numbered (bound + 1) fs) := by
  have h : lexemes (numbered bound (predicateFragments p ++ fs)) = .name p.column.name ::
      lexemes ((" " ++ operatorSymbol p.operator ++ " ").toList.map .symbol ++
        .param (bound + 1, .text p.value) :: numbered (bound + 1) fs) := rfl
  rw [h, lexemes_operator]
  rfl

theorem lexemes_joined (bound : Nat) (ps : List Predicate) (fs : List Fragment) :
    lexemes (numbered bound (ps.flatMap joinedPredicate ++ fs)) =
      (comparisons bound ps).flatMap joinedLexemes ++
        lexemes (numbered (bound + ps.length) fs) := by
  induction ps generalizing bound with
  | nil => rfl
  | cons p ps ih =>
    have h : lexemes (numbered bound ((p :: ps).flatMap joinedPredicate ++ fs)) =
        lexemes ((" " ++ connectiveSymbol p.connective ++ " ").toList.map .symbol ++
          numbered bound (predicateFragments p ++ (ps.flatMap joinedPredicate ++ fs))) := by
      rw [List.flatMap_cons, List.append_assoc]
      rfl
    rw [h, lexemes_connective, lexemes_predicate, ih, List.length_cons, Nat.add_right_comm]
    simp only [comparisons, List.flatMap_cons, joinedLexemes, List.cons_append, List.append_assoc,
      Nat.add_assoc]

def whereLexemes (bound : Nat) : Filter → List (Lexeme (Nat × Value))
  | [] => []
  | first :: rest =>
    .word "WHERE" :: comparisonLexemes ⟨first.column, first.operator, bound + 1, first.value⟩ ++
      (comparisons (bound + 1) rest).flatMap joinedLexemes

/-- The words of a condition are those of its comparisons, with the connectives between them. -/
theorem lexemes_filter (bound : Nat) (filter : Filter) (fs : List Fragment) :
    lexemes (numbered bound (filterFragments filter ++ fs)) =
      whereLexemes bound filter ++ lexemes (numbered (bound + filter.length) fs) := by
  cases filter with
  | nil => rfl
  | cons first rest =>
    have h : lexemes (numbered bound (filterFragments (first :: rest) ++ fs)) = .word "WHERE" ::
        lexemes (numbered bound (predicateFragments first ++
          (rest.flatMap joinedPredicate ++ fs))) := by
      rw [filterFragments, List.append_assoc]
      rfl
    rw [h, lexemes_predicate, lexemes_joined, List.length_cons, ← Nat.add_assoc,
      Nat.add_right_comm]
    simp only [whereLexemes, List.cons_append, List.append_assoc]

def windowLexemes (bound : Nat) (p : Pagination) : List (Lexeme (Nat × Value)) :=
  [.param (bound + 1, .ofUInt64 p.limit), .word "OFFSET", .param (bound + 2, .ofUInt64 p.offset)]

def limitLexemes (bound : Nat) (p : Pagination) : List (Lexeme (Nat × Value)) :=
  if p.limit = 0 then [] else .word "LIMIT" :: windowLexemes bound p

theorem lexemes_pagination (bound : Nat) (p : Pagination) :
    lexemes (numbered bound (paginationFragments p ++ [word ";"])) =
      limitLexemes bound p ++ [.word ";"] := by
  rw [paginationFragments_eq, limitLexemes]
  split <;> rfl

def selectLexemes : List (Lexeme (Nat × Value)) :=
  .word "SELECT" :: .name idColumn :: Column.all.flatMap fun c => [.word ",", .name c.name]

theorem lexemes_listing (bound : Nat) (table : String) (filter : Filter) (p : Pagination) :
    lexemes (numbered bound
      (Statement.fragments table (.run (.query filter p)) ++ [word ";"])) =
      selectLexemes ++ .word "FROM" :: .name table ::
        (whereLexemes bound filter ++ limitLexemes (bound + filter.length) p ++ [.word ";"]) := by
  have h : lexemes (numbered bound
      (Statement.fragments table (.run (.query filter p)) ++ [word ";"])) =
      selectLexemes ++ .word "FROM" :: .name table ::
        lexemes (numbered bound (filterFragments filter ++
          (paginationFragments p ++ [word ";"]))) := by
    simp only [Statement.fragments, List.cons_append, List.append_assoc]
    rfl
  rw [h, lexemes_filter, lexemes_pagination, List.append_assoc]

/-- A word that is no sign is no lexeme of a comparison. -/
theorem not_mem_comparisonLexemes (w : String) (hw : ∀ o, operatorSymbol o ≠ w) (c : Comparison) :
    .word w ∉ comparisonLexemes c := by
  simp only [comparisonLexemes, List.mem_cons, List.not_mem_nil, or_false, reduceCtorEq, false_or,
    Lexeme.word.injEq]
  exact fun h => hw c.operator h.symm

theorem not_mem_joinedLexemes (w : String) (hw : ∀ o, operatorSymbol o ≠ w)
    (hc : ∀ c, connectiveSymbol c ≠ w) (xs : List (Connective × Comparison)) :
    .word w ∉ xs.flatMap joinedLexemes := by
  rw [List.mem_flatMap]
  rintro ⟨x, _, hx⟩
  rw [joinedLexemes, List.mem_cons, Lexeme.word.injEq] at hx
  rcases hx with h | h
  · exact hc x.1 h.symm
  · exact not_mem_comparisonLexemes w hw x.2 h

theorem sign_ne_or (o : Operator) : operatorSymbol o ≠ "OR" := by cases o <;> decide

theorem sign_ne_and (o : Operator) : operatorSymbol o ≠ "AND" := by cases o <;> decide

theorem ofLexemes_comparison (c : Comparison) :
    Comparison.ofLexemes? (comparisonLexemes c) = some c := by
  have hsign : operatorOfSign? (operatorSymbol c.operator) = some c.operator := by
    cases c.operator <;> rfl
  simp only [comparisonLexemes, Comparison.ofLexemes?, Column.ofName?_name, hsign]

def groupLexemes : List Comparison → List (Lexeme (Nat × Value))
  | [] => []
  | c :: cs => comparisonLexemes c ++ cs.flatMap fun c => joinedLexemes (.and, c)

/-- `OR` parts the groups of a condition that goes on behind `front`. -/
theorem cut_or (front : List (Lexeme (Nat × Value))) (hf : .word "OR" ∉ front)
    (xs : List (Connective × Comparison)) :
    Text.cut (.word "OR") (front ++ xs.flatMap joinedLexemes) =
      (front ++ (splitGroups xs).1.flatMap fun c => joinedLexemes (.and, c)) ::
        (splitGroups xs).2.map groupLexemes := by
  -- `front` is the part of the current group that was read: an `and` adds to it, an `or` ends it.
  induction xs generalizing front with
  | nil =>
    rw [List.flatMap_nil, List.append_nil, Text.cut_of_not_mem _ _ hf]
    simp [splitGroups]
  | cons x xs ih =>
    obtain ⟨connective, c⟩ := x
    have hc := not_mem_comparisonLexemes "OR" sign_ne_or c
    cases connective with
    | and =>
      have hfront : .word "OR" ∉ front ++ joinedLexemes (.and, c) := by
        rw [List.mem_append, not_or, joinedLexemes, List.mem_cons, not_or, Lexeme.word.injEq]
        exact ⟨hf, show "OR" ≠ connectiveSymbol .and by decide, hc⟩
      rw [List.flatMap_cons, ← List.append_assoc, ih _ hfront]
      simp only [splitGroups, List.flatMap_cons, List.append_assoc]
    | or =>
      have hcut : Text.cut (.word "OR") (front ++ ((.or, c) :: xs).flatMap joinedLexemes) =
          front :: Text.cut (.word "OR") (comparisonLexemes c ++ xs.flatMap joinedLexemes) :=
        Text.cut_append _ _ _ hf
      rw [hcut, ih _ hc]
      simp only [splitGroups, groupLexemes, List.flatMap_nil, List.append_nil, List.map_cons]

/-- `AND` parts the comparisons of a group. -/
theorem cut_and (front : List (Lexeme (Nat × Value))) (hf : .word "AND" ∉ front)
    (cs : List Comparison) :
    Text.cut (.word "AND") (front ++ cs.flatMap fun c => joinedLexemes (.and, c)) =
      front :: cs.map comparisonLexemes := by
  induction cs generalizing front with
  | nil => rw [List.flatMap_nil, List.append_nil, Text.cut_of_not_mem _ _ hf, List.map_nil]
  | cons c cs ih =>
    have hcut : Text.cut (.word "AND")
        (front ++ (c :: cs).flatMap fun c => joinedLexemes (.and, c)) =
        front :: Text.cut (.word "AND")
          (comparisonLexemes c ++ cs.flatMap fun c => joinedLexemes (.and, c)) :=
      Text.cut_append _ _ _ hf
    rw [hcut, ih _ (not_mem_comparisonLexemes "AND" sign_ne_and c), List.map_cons]

theorem mapM_map_some {α β : Type} (f : α → β) (g : β → Option α) (l : List α)
    (h : ∀ a ∈ l, g (f a) = some a) : (l.map f).mapM g = some l := by
  induction l with
  | nil => rfl
  | cons a l ih =>
    rw [List.map_cons, List.mapM_cons, h a List.mem_cons_self,
      ih fun b hb => h b (List.mem_cons_of_mem a hb)]
    rfl

theorem ne_nil_of_mem_splitGroups {α : Type} (xs : List (Connective × α)) (g : List α)
    (h : g ∈ (splitGroups xs).2) : g ≠ [] := by
  induction xs with
  | nil => cases h
  | cons x xs ih =>
    obtain ⟨connective, a⟩ := x
    cases connective with
    | and => exact ih h
    | or =>
      rcases List.mem_cons.mp h with rfl | hg
      · exact List.cons_ne_nil _ _
      · exact ih hg

/-- The condition of a filter is read as the filter's groups. -/
theorem conditionOf_filter (first : Connective × Comparison)
    (xs : List (Connective × Comparison)) :
    conditionOf? (comparisonLexemes first.2 ++ xs.flatMap joinedLexemes) =
      some (groups (first :: xs)) := by
  have hgroup (g : List Comparison) (hg : g ≠ []) :
      (Text.cut (.word "AND") (groupLexemes g)).mapM Comparison.ofLexemes? = some g := by
    cases g with
    | nil => exact absurd rfl hg
    | cons c cs =>
      rw [groupLexemes, cut_and _ (not_mem_comparisonLexemes "AND" sign_ne_and c), ← List.map_cons]
      exact mapM_map_some _ _ _ fun c _ => ofLexemes_comparison c
  have hcut := cut_or _ (not_mem_comparisonLexemes "OR" sign_ne_or first.2) xs
  rw [conditionOf?, hcut]
  refine mapM_map_some groupLexemes _ (groups (first :: xs)) fun g hg => hgroup g ?_
  rcases List.mem_cons.mp hg with rfl | hg
  · exact List.cons_ne_nil _ _
  · exact ne_nil_of_mem_splitGroups xs g hg

def windowOf (p : Pagination) : Option (Int64 × Int64) :=
  if p.limit = 0 then none
  else
    some (.ofNat (min p.limit.toNat 9223372036854775807),
      .ofNat (min p.offset.toNat 9223372036854775807))

/-- The listing that a filter and a window on a table stand for. -/
def Listing.ofQuery (table : String) (bound : Nat) (filter : Filter) (p : Pagination) :
    Listing where
  table := table
  condition := if filter = [] then none else some (groups (comparisons bound filter))
  window := windowOf p

theorem not_mem_whereLexemes (w : String) (hw : ∀ o, operatorSymbol o ≠ w)
    (hc : ∀ c, connectiveSymbol c ≠ w) (hwhere : w ≠ "WHERE") (bound : Nat) (filter : Filter) :
    .word w ∉ whereLexemes bound filter := by
  cases filter with
  | nil => exact List.not_mem_nil
  | cons first rest =>
    rw [whereLexemes, List.cons_append, List.mem_cons, Lexeme.word.injEq, List.mem_append]
    rintro (h | h | h)
    · exact hwhere h
    · exact not_mem_comparisonLexemes w hw _ h
    · exact not_mem_joinedLexemes w hw hc _ h

theorem whereOf_whereLexemes (bound : Nat) (filter : Filter) :
    Listing.whereOf? (whereLexemes bound filter) =
      some (if filter = [] then none else some (groups (comparisons bound filter))) := by
  cases filter with
  | nil => rfl
  | cons first rest =>
    have hcond := conditionOf_filter
      (first.connective, ⟨first.column, first.operator, bound + 1, first.value⟩)
      (comparisons (bound + 1) rest)
    rw [whereLexemes, List.cons_append, Listing.whereOf?, hcond, if_neg (List.cons_ne_nil _ _)]
    rfl

/-- `LIMIT` parts the condition from the window. -/
theorem cutOnce_limit (bound : Nat) (condition : List (Lexeme (Nat × Value))) (p : Pagination)
    (h : .word "LIMIT" ∉ condition) :
    ∃ window, Text.cutOnce (.word "LIMIT") (condition ++ limitLexemes bound p) =
      (condition, window) ∧ Listing.windowOf? window = some (windowOf p) := by
  unfold limitLexemes windowOf
  split
  · rw [List.append_nil, Text.cutOnce_of_not_mem _ _ h]
    exact ⟨none, rfl, rfl⟩
  · rw [Text.cutOnce_append _ _ _ h]
    refine ⟨some (windowLexemes bound p), rfl, ?_⟩
    rw [windowLexemes, Value.ofUInt64_eq, Value.ofUInt64_eq]
    rfl

/-- The compiled listing is read as the listing that its filter and its window stand for. -/
theorem listing_compile (table : String) (before : List Value) (filter : Filter) (p : Pagination)
    (c : Compiled) (h : compile table before (.run (.query filter p)) = .ok c) :
    c.listing? = some (.ofQuery table before.length filter p) := by
  -- Names and values are no words, so the words that cut the text stand only where it has them.
  have hwhere (w : String) (hw : w = ";" ∨ w = "LIMIT") :
      .word w ∉ whereLexemes before.length filter := by
    refine not_mem_whereLexemes w (fun o => ?_) (fun c => ?_) ?_ _ _
    · rcases hw with rfl | rfl <;> cases o <;> decide
    · rcases hw with rfl | rfl <;> cases c <;> decide
    · rcases hw with rfl | rfl <;> decide
  have hsemi : .word ";" ∉ whereLexemes before.length filter ++
      limitLexemes (before.length + filter.length) p := by
    rw [List.mem_append, not_or]
    refine ⟨hwhere ";" (.inl rfl), ?_⟩
    unfold limitLexemes windowLexemes
    split <;> simp
  obtain ⟨window, hcut, hwindow⟩ := cutOnce_limit (before.length + filter.length) _ p
    (hwhere "LIMIT" (.inr rfl))
  rw [Compiled.listing?, read_compile _ _ _ _ h, Option.bind_some, lexemes_listing,
    Listing.ofLexemes?, Text.cutOnce_append _ selectLexemes _ (by decide)]
  simp only [selectLexemes, Text.cutOnce_append _ _ [] hsemi, hcut, whereOf_whereLexemes, hwindow]
  rfl

end VehicleRecords.Sql
