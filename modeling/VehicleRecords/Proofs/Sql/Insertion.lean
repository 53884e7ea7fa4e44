import VehicleRecords.Proofs.Sql.Listing

/-!
The statements that make the table and that fill it, as a database reads them. What stands in
parentheses is the list of the table's columns with their types, or the list of the columns that are
filled, or the values of one row (`definitions_compile`, `insertion_compile`).
-/
namespace VehicleRecords.Sql

open Fragment

/-! ## Parentheses -/

section Parentheses

variable {α : Type} [DecidableEq α]

/-- What stands between an opening parenthesis and the next closing one, group by group. -/
def parenthesised (ts : List (Token α)) : List (List (Token α)) :=
  (Text.cut (.symbol ')') ts).filterMap fun piece => (Text.cutOnce (.symbol '(') piece).2

theorem parenthesised_append (front inner rest : List (Token α)) (hopen : .symbol '(' ∉ front)
    (hclose : .symbol ')' ∉ front) (hinner : .symbol ')' ∉ inner) :
    parenthesised (front ++ .symbol '(' :: (inner ++ .symbol ')' :: rest)) =
      inner :: parenthesised rest := by
  have hpiece : .symbol ')' ∉ front ++ .symbol '(' :: inner := by
    rw [List.mem_append, List.mem_cons]
    rintro (h | h | h)
    · exact hclose h
    · cases h
    · exact hinner h
  have hsplit : front ++ .symbol '(' :: (inner ++ .symbol ')' :: rest) =
      (front ++ .symbol '(' :: inner) ++ .symbol ')' :: rest := by
    rw [List.append_assoc, List.cons_append]
  rw [parenthesised, hsplit, Text.cut_append _ _ rest hpiece, List.filterMap_cons,
    Text.cutOnce_append _ front inner hopen]
  rfl

end Parentheses

/-! ## Fragments as tokens -/

namespace Fragment

theorem numbered_append (bound : Nat) (fs gs : List Fragment) :
    numbered bound (fs ++ gs) = numbered bound fs ++ numbered (bound + (values fs).length) gs := by
  induction fs generalizing bound with
  | nil => rfl
  | cons f fs ih =>
    cases f with
    | word w => rw [List.cons_append, numbered, numbered, ih, values_word, List.append_assoc]
    | name n => rw [List.cons_append, numbered, numbered, ih, values_name, List.cons_append]
    | bind v =>
      rw [List.cons_append, numbered, numbered, ih, values_bind, List.length_cons,
        List.cons_append, Nat.add_right_comm, Nat.add_assoc]

def lacks (c : Char) (fs : List Fragment) : Bool :=
  fs.all fun
    | word w => !w.toList.contains c
    | _ => true

theorem symbol_not_mem_numbered {c : Char} (bound : Nat) (fs : List Fragment)
    (h : lacks c fs = true) : .symbol c ∉ numbered bound fs := by
  induction fs generalizing bound with
  | nil => exact List.not_mem_nil
  | cons f fs ih =>
    rw [lacks, List.all_cons, Bool.and_eq_true] at h
    cases f with
    | word w =>
      have hw : c ∉ w.toList := by simpa using h.1
      rw [numbered, List.mem_append, List.mem_map]
      rintro (⟨d, hd, heq⟩ | hmem)
      · cases heq
        exact hw hd
      · exact ih bound h.2 hmem
    | name n =>
      rw [numbered, List.mem_cons]
      rintro (heq | hmem)
      · cases heq
      · exact ih bound h.2 hmem
    | bind v =>
      rw [numbered, List.mem_cons]
      rintro (heq | hmem)
      · cases heq
      · exact ih (bound + 1) h.2 hmem

end Fragment

/-! ## Table definitions -/

def definitionOf? {α : Type} : List (Lexeme α) → Option (String × String)
  | .name column :: .word type :: _ => some (column, type)
  | _ => none

/-- The columns of the table that a compiled statement makes. -/
def Compiled.definitions? (c : Compiled) : Option (List (String × String)) :=
  c.read.bind fun ts =>
    match parenthesised ts with
    | [columns] => (Text.cut (.symbol ',') columns).mapM fun d => definitionOf? (lexemes d)
    | _ => none

def typeWord : Column → String
  | .year => "INTEGER"
  | _ => "TEXT"

def definitionList : List Fragment :=
  name idColumn :: word " SERIAL PRIMARY KEY, " :: commaSeparated (Column.all.map columnDefinition)

theorem definitionList_read (bound : Nat) :
    ((Text.cut (.symbol ',') (numbered bound definitionList)).mapM fun d =>
      definitionOf? (lexemes d)) =
      some ((idColumn, "SERIAL") :: Column.all.map fun c => (c.name, typeWord c)) := by
  have hbound : numbered bound definitionList = numbered 0 definitionList := rfl
  rw [hbound]
  decide +kernel

/-- A database reads in the statement that makes the table its columns, each with its type. -/
theorem definitions_compile (table : String) (ifNotExists : Bool) (before : List Value)
    (c : Compiled) (h : compile table before (.createTable ifNotExists) = .ok c) :
    c.definitions? =
      some ((idColumn, "SERIAL") :: Column.all.map fun column => (column.name, typeWord column)) := by
  let front : List Fragment :=
    [word "CREATE TABLE ", word (if ifNotExists then "IF NOT EXISTS " else ""), name table, word " "]
  have htokens : numbered before.length
      (Statement.fragments table (.createTable ifNotExists) ++ [word ";"]) =
      numbered before.length front ++ .symbol '(' ::
        (numbered before.length definitionList ++ .symbol ')' :: [.symbol ';']) := by
    have hlist : numbered before.length (definitionList ++ [word ")", word ";"]) =
        numbered before.length definitionList ++ .symbol ')' :: [.symbol ';'] :=
      numbered_append _ _ _
    rw [← hlist]
    cases ifNotExists <;> rfl
  have hclose : .symbol ')' ∉ numbered before.length definitionList :=
    symbol_not_mem_numbered _ _ (by decide)
  rw [Compiled.definitions?, read_compile _ _ _ _ h, Option.bind_some, htokens,
    parenthesised_append _ _ _ (symbol_not_mem_numbered _ _ (by cases ifNotExists <;> rfl))
      (symbol_not_mem_numbered _ _ (by cases ifNotExists <;> rfl)) hclose]
  exact definitionList_read _

/-! ## Insertions -/

def Token.name? {α : Type} : Token α → Option String
  | .name identifier => some identifier
  | _ => none

/-- The columns that an insertion fills, and its rows. Each value comes with its number. -/
structure Insertion where
  columns : List String
  rows : List (List (Nat × Value))
  deriving DecidableEq, Repr

/-- The insertion that a compiled statement asks a database for. The first group names the columns;
the groups that hold values are the rows. -/
def Compiled.insertion? (c : Compiled) : Option Insertion :=
  c.read.bind fun ts =>
    match parenthesised ts with
    | columns :: groups =>
      some ⟨columns.filterMap Token.name?,
        (groups.map (·.filterMap Token.param?)).filter (· ≠ [])⟩
    | [] => none

def rowValues (bound : Nat) (car : Car) : List (Nat × Value) :=
  Column.all.mapIdx fun i c => (bound + i + 1, car.value c)

def numberedRows (bound : Nat) : List Car → List (List (Nat × Value))
  | [] => []
  | car :: cars => rowValues bound car :: numberedRows (bound + Column.all.length) cars

def rowList (car : Car) : List Fragment := commaSeparated (Column.all.map fun c => [bind (car.value c)])

theorem rowList_params (bound : Nat) (car : Car) :
    (numbered bound (rowList car)).filterMap Token.param? = rowValues bound car := rfl

theorem numbered_row (bound : Nat) (car : Car) (fs : List Fragment) :
    numbered bound (carFragments car ++ fs) = .symbol '(' ::
      (numbered bound (rowList car) ++ .symbol ')' :: numbered (bound + Column.all.length) fs) :=
  rfl

theorem row_closed (bound : Nat) (car : Car) : .symbol ')' ∉ numbered bound (rowList car) :=
  symbol_not_mem_numbered bound (rowList car) rfl

def rowGroups (bound : Nat) : List Car → List (List (Token (Nat × Value)))
  | [] => []
  | car :: cars => numbered bound (rowList car) :: rowGroups (bound + Column.all.length) cars

theorem rowGroups_params (bound : Nat) (cars : List Car) :
    (rowGroups bound cars).map (·.filterMap Token.param?) = numberedRows bound cars := by
  induction cars generalizing bound with
  | nil => rfl
  | cons car cars ih => rw [rowGroups, List.map_cons, ih, rowList_params, numberedRows]

/-- The rows of a batch are groups of their own, whatever text without parentheses stands in front
and whatever text follows. -/
theorem parenthesised_rows (front : List (Token (Nat × Value))) (hopen : .symbol '(' ∉ front)
    (hclose : .symbol ')' ∉ front) (bound : Nat) (cars : List Car) (hcars : cars ≠ [])
    (fs : List Fragment) :
    parenthesised (front ++ numbered bound (commaSeparated (cars.map carFragments) ++ fs)) =
      rowGroups bound cars ++
        parenthesised (numbered (bound + cars.length * Column.all.length) fs) := by
  induction cars generalizing front bound with
  | nil => exact absurd rfl hcars
  | cons car cars ih =>
    cases cars with
    | nil =>
      rw [List.map_singleton, commaSeparated_singleton, numbered_row,
        parenthesised_append front _ _ hopen hclose (row_closed bound car), List.length_singleton,
        Nat.one_mul]
      rfl
    | cons next cars =>
      -- The comma between two rows is the text in front of the second one.
      have hcomma (fs : List Fragment) (bound : Nat) :
          numbered bound (word ", " :: fs) = [.symbol ',', .symbol ' '] ++ numbered bound fs := rfl
      have hbound : bound + Column.all.length + (next :: cars).length * Column.all.length =
          bound + (car :: next :: cars).length * Column.all.length := by
        simp only [List.length_cons, Nat.succ_mul]
        omega
      rw [List.map_cons, List.map_cons, commaSeparated_cons, List.append_assoc, List.cons_append,
        numbered_row, parenthesised_append front _ _ hopen hclose (row_closed bound car), hcomma,
        ← List.map_cons, ih _ (by decide) (by decide) _ (List.cons_ne_nil next cars), hbound]
      rfl

theorem numberedRows_ne_nil (bound : Nat) (cars : List Car) :
    ∀ row ∈ numberedRows bound cars, row ≠ [] := by
  induction cars generalizing bound with
  | nil => nofun
  | cons car cars ih =>
    rw [numberedRows, List.forall_mem_cons]
    exact ⟨List.cons_ne_nil _ _, ih _⟩

/-- A database reads in a compiled insertion the columns in their order and the rows of the batch. -/
theorem insertion_compile (table : String) (before : List Value) (cars : List Car) (c : Compiled)
    (h : compile table before (.run (.insert cars)) = .ok c) :
    c.insertion? = some ⟨Column.all.map Column.name, numberedRows before.length cars⟩ := by
  have hcars : cars ≠ [] := by
    rintro rfl
    cases h
  let front : List Fragment := [word "INSERT INTO ", name table, word " "]
  let tail : List Fragment :=
    [word " ON CONFLICT (", name Column.regNum.name, word ") DO NOTHING", word ";"]
  have htokens : numbered before.length
      (Statement.fragments table (.run (.insert cars)) ++ [word ";"]) =
      numbered before.length front ++ .symbol '(' ::
        (numbered before.length columnList ++ .symbol ')' ::
          (numbered before.length [word " VALUES "] ++
            numbered before.length (commaSeparated (cars.map carFragments) ++ tail))) := by
    simp only [Statement.fragments, List.cons_append, List.append_assoc, List.nil_append]
    rfl
  -- The last group names the column that must be unique. It holds no value and so is no row.
  have htail (bound : Nat) : parenthesised (numbered bound tail) = [[.name Column.regNum.name]] := by
    have hbound : numbered bound tail = numbered 0 tail := rfl
    rw [hbound]
    decide +kernel
  have hnames : (numbered before.length columnList).filterMap Token.name? =
      Column.all.map Column.name := rfl
  rw [Compiled.insertion?, read_compile _ _ _ _ h, Option.bind_some, htokens,
    parenthesised_append _ _ _ (symbol_not_mem_numbered _ _ rfl) (symbol_not_mem_numbered _ _ rfl)
      (symbol_not_mem_numbered _ _ (by decide)),
    parenthesised_rows _ (symbol_not_mem_numbered _ _ (by decide))
      (symbol_not_mem_numbered _ _ (by decide)) _ _ hcars, htail]
  dsimp only
  have hrows : (numberedRows before.length cars).filter (· ≠ []) = numberedRows before.length cars :=
    List.filter_eq_self.2 fun row hrow => decide_eq_true (numberedRows_ne_nil _ _ row hrow)
  rw [hnames, List.map_append, rowGroups_params, List.filter_append, hrows]
  exact congrArg (fun rows => some (Insertion.mk _ rows)) (List.append_nil _)

/-- A batch with a record compiles, and its parameters are the values of its rows. -/
theorem compile_insert (table : String) (before : List Value) {cars : List Car} (hcars : cars ≠ []) :
    ∃ c, compile table before (.run (.insert cars)) = .ok c ∧
      c.params = before ++ cars.flatMap fun car => Column.all.map car.value := by
  rw [compile, verify_insert hcars]
  exact ⟨_, rfl, congrArg (before ++ ·) (values_fragments table (.run (.insert cars)))⟩

end VehicleRecords.Sql
