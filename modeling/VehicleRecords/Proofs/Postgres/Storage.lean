import VehicleRecords.Proofs.Postgres.Row
import VehicleRecords.Postgres.Connection
import VehicleRecords.Proofs.Sql.Batches

/-!
What a database stores for an insertion: the statement that makes the table gives each column its
type, each parameter is converted to the type of the column that it fills, and the values of a group
become a row. The rows of a batch hold its records in order (`inserted_records_read_back`).
-/
namespace VehicleRecords.Postgres

def typeOfWord? : String → Option SqlType
  | "SERIAL" | "INTEGER" => some .int4
  | "TEXT" => some .text
  | _ => none

def tableOf? (create : Sql.Compiled) : Option Columns :=
  create.definitions?.bind fun definitions =>
    definitions.mapM fun d => (typeOfWord? d.2).map (d.1, ·)

def typeIn (table : Columns) (column : String) : SqlType :=
  (table.lookup column).getD (.other "unknown")

def recordTable : Columns := (idColumn, .int4) :: Column.all.map fun c => (c.name, storedType c)

theorem typeIn_recordTable (c : Column) : typeIn recordTable c.name = storedType c := by
  cases c <;> rfl

theorem tableOf?_compile {name : String} {ifNotExists : Bool} {create : Sql.Compiled}
    (h : Sql.compile name [] (.createTable ifNotExists) = .ok create) :
    tableOf? create = some recordTable := by
  rw [tableOf?, Sql.definitions_compile _ _ _ _ h]
  rfl

/-- The numbers of an insertion's values, each with the column at its position. -/
def filled (i : Sql.Insertion) : List (Nat × String) :=
  i.rows.flatMap fun row => (row.map Prod.fst).zip i.columns

/-- An insertion as a server prepares it: a placeholder has the type of the column that it fills. -/
def preparedInto (table : Columns) (i : Sql.Insertion) : Prepared where
  number := 0
  paramType n := (((filled i).lookup (n + 1)).map (typeIn table)).getD (.other "unknown")
  columns := []

def paramBytes (params : List (Option Bytes)) : Nat → Option Bytes
  | 0 => none
  | n + 1 => params[n]?.join

def storedRow (table : Columns) (columns : List String) (params : List (Option Bytes))
    (row : List (Nat × Value)) : List NamedCell :=
  (row.zip columns).map fun x => ⟨(x.2, typeIn table x.2), paramBytes params x.1.1⟩

/-- The rows that a compiled insertion stores, once its parameters are converted. -/
def storedBy (table : Columns) (compiled : Sql.Compiled) : Except Failure (List (List NamedCell)) :=
  match compiled.insertion? with
  | some i => (encodeParams (preparedInto table i) 0 compiled.params).map fun params =>
    i.rows.map (storedRow table i.columns params)
  | none => .error (.client "not an insertion")

/-- Whatever id the row gets and in whatever order its columns are answered, it is read as the
record. -/
def Holds (row : List NamedCell) (car : Car) : Prop :=
  ∀ (id : Int32) (answer : List NamedCell), answer.Perm (idCell id :: row) →
    readRow answer = .ok { car with id := id }

/-! ## The parameters of a batch -/

/-- The values of a batch in the order of their placeholders, each as a record and a column. -/
def places (cars : List Car) : List (Car × Column) :=
  cars.flatMap fun car => Column.all.map (car, ·)

theorem places_cons (car : Car) (cars : List Car) :
    places (car :: cars) = Column.all.map (car, ·) ++ places cars := List.flatMap_cons

def insertionOf (bound : Nat) (cars : List Car) : Sql.Insertion :=
  ⟨Column.all.map Column.name, Sql.numberedRows bound cars⟩

theorem lookup_mapIdx {α : Type} (f : α → String) (xs : List α) (bound j : Nat) :
    (xs.mapIdx fun i x => (bound + i + 1, f x)).lookup (bound + j + 1) = xs[j]?.map f := by
  induction xs generalizing bound j with
  | nil => rfl
  | cons x xs ih =>
    rw [List.mapIdx_cons]
    cases j with
    | zero => rw [List.lookup_cons_self]; rfl
    | succ j =>
      have hkey : (bound + (j + 1) + 1 == bound + 0 + 1) = false := by
        rw [beq_eq_false_iff_ne]
        omega
      have hnext (i : Nat) : bound + (i + 1) + 1 = bound + 1 + i + 1 := by omega
      rw [List.lookup_cons, hkey]
      simp only [hnext]
      exact ih (bound + 1) j

/-- The k-th number of an insertion fills the column at the position of the k-th value. -/
theorem filled_insertionOf (bound : Nat) (cars : List Car) :
    filled (insertionOf bound cars) =
      (places cars).mapIdx fun j x => (bound + j + 1, x.2.name) := by
  induction cars generalizing bound with
  | nil => rfl
  | cons car cars ih =>
    -- The next record's numbers go on behind a whole row.
    have hrow : filled (insertionOf bound (car :: cars)) =
        ((Column.all.map (car, ·)).mapIdx fun j x => (bound + j + 1, x.2.name)) ++
          filled (insertionOf (bound + Column.all.length) cars) := rfl
    have hnext (j : Nat) : bound + Column.all.length + j + 1 =
        bound + (j + (Column.all.map (car, ·)).length) + 1 := by
      rw [List.length_map]
      omega
    rw [hrow, ih, places_cons, List.mapIdx_append]
    simp only [hnext]

theorem paramType_of_place {cars : List Car} {j : Nat} {x : Car × Column}
    (h : (places cars)[j]? = some x) :
    (preparedInto recordTable (insertionOf 0 cars)).paramType j = storedType x.2 := by
  have hlookup : (filled (insertionOf 0 cars)).lookup (j + 1) = some x.2.name := by
    have hplace := lookup_mapIdx (fun x : Car × Column => x.2.name) (places cars) 0 j
    rw [h, ← filled_insertionOf, Nat.zero_add] at hplace
    exact hplace
  rw [preparedInto]
  dsimp only
  rw [hlookup, Option.map_some, typeIn_recordTable, Option.getD_some]

theorem encodeParams_cons {p : Prepared} {i : Nat} {value : Value} {bytes : Option Bytes}
    (haccepted : (p.paramType i).isAccepted = true) (h : encode (p.paramType i) value = .ok bytes)
    (rest : List Value) :
    encodeParams p i (value :: rest) = (encodeParams p (i + 1) rest).map (bytes :: ·) := by
  rw [encodeParams, if_pos haccepted, h]

theorem storedType_accepted (c : Column) : (storedType c).isAccepted = true := by cases c <;> rfl

/-- Values of columns are converted when their placeholders have the columns' types. -/
theorem encodeParams_places {p : Prepared} (xs : List (Car × Column)) (i : Nat)
    (h : ∀ j x, xs[j]? = some x → p.paramType (i + j) = storedType x.2) :
    encodeParams p i (xs.map fun x => x.1.value x.2) =
      .ok (xs.map fun x => some (columnBytes x.1 x.2)) := by
  induction xs generalizing i with
  | nil => rfl
  | cons x xs ih =>
    have htype : p.paramType i = storedType x.2 := h 0 x rfl
    have hrest := ih (i + 1) fun j y hy => by
      rw [Nat.add_right_comm]
      exact h (j + 1) y hy
    rw [List.map_cons, encodeParams_cons (by rw [htype]; exact storedType_accepted x.2)
      (by rw [htype]; exact encode_value x.1 x.2), hrest]
    rfl

def rowBytes (car : Car) : List (Option Bytes) := Column.all.map fun c => some (columnBytes car c)

theorem storedRow_rowValues (before after : List (Option Bytes)) (car : Car) :
    storedRow recordTable (Column.all.map Column.name) (before ++ (rowBytes car ++ after))
      (Sql.rowValues before.length car) = recordRow car := by
  have hcell (i : Nat) : paramBytes (before ++ (rowBytes car ++ after)) (before.length + i + 1) =
      (rowBytes car ++ after)[i]?.join := by
    rw [paramBytes, List.getElem?_append_right (Nat.le_add_right _ _), Nat.add_sub_cancel_left]
  have hrow : storedRow recordTable (Column.all.map Column.name)
      (before ++ (rowBytes car ++ after)) (Sql.rowValues before.length car) =
      Column.all.mapIdx fun i c => ⟨(c.name, typeIn recordTable c.name),
        paramBytes (before ++ (rowBytes car ++ after)) (before.length + i + 1)⟩ := rfl
  simp only [hrow, hcell]
  rfl

/-- The groups of a batch become the rows of its records, whatever parameters precede them. -/
theorem storedRow_numberedRows (before : List (Option Bytes)) (cars : List Car) :
    (Sql.numberedRows before.length cars).map (storedRow recordTable (Column.all.map Column.name)
      (before ++ (places cars).map fun x => some (columnBytes x.1 x.2))) = cars.map recordRow := by
  induction cars generalizing before with
  | nil => rfl
  | cons car cars ih =>
    have hbytes : ((places (car :: cars)).map fun x => some (columnBytes x.1 x.2)) =
        rowBytes car ++ (places cars).map fun x => some (columnBytes x.1 x.2) := by
      rw [places_cons, List.map_append, List.map_map]
      rfl
    have hlength : before.length + Column.all.length = (before ++ rowBytes car).length := by
      rw [List.length_append, rowBytes, List.length_map]
    rw [Sql.numberedRows, List.map_cons, List.map_cons, hbytes, storedRow_rowValues, hlength,
      ← List.append_assoc, ih]

/-- A compiled chunk stores the rows of its records. -/
theorem storedBy_insert {name : String} {cars : List Car} {c : Sql.Compiled}
    (hcars : cars ≠ []) (h : Sql.compile name [] (.run (.insert cars)) = .ok c) :
    storedBy recordTable c = .ok (cars.map recordRow) := by
  have hread : c.insertion? = some (insertionOf 0 cars) := Sql.insertion_compile _ _ _ _ h
  obtain ⟨c', hc', hparams⟩ := Sql.compile_insert name [] hcars
  rw [h] at hc'
  cases hc'
  have hplaces : c.params = (places cars).map fun x => x.1.value x.2 := by
    rw [hparams, List.nil_append, places, List.map_flatMap]
    simp only [List.map_map]
    rfl
  have hencode := encodeParams_places (p := preparedInto recordTable (insertionOf 0 cars))
    (places cars) 0 fun j x hx => by
      rw [Nat.zero_add]
      exact paramType_of_place hx
  rw [storedBy, hread]
  dsimp only
  rw [hplaces, hencode]
  exact congrArg Except.ok (storedRow_numberedRows [] cars)

/-- Chunks that compile to what is stored row by row are stored together. -/
theorem mapM_storedBy (name : String) (chunks : List (List Car)) (h : ∀ chunk ∈ chunks, chunk ≠ []) :
    ∃ inserts, (chunks.mapM fun chunk => Sql.compile name [] (.run (.insert chunk))) = .ok inserts ∧
      inserts.mapM (storedBy recordTable) = .ok (chunks.map (·.map recordRow)) := by
  induction chunks with
  | nil => exact ⟨[], rfl, rfl⟩
  | cons chunk chunks ih =>
    rw [List.forall_mem_cons] at h
    obtain ⟨inserts, hcompile, hstored⟩ := ih h.2
    obtain ⟨c, hc, _⟩ := Sql.compile_insert name [] h.1
    refine ⟨c :: inserts, ?_, ?_⟩
    · rw [List.mapM_cons, hc, hcompile]
      rfl
    · rw [List.mapM_cons, storedBy_insert h.1 hc, hstored]
      rfl

/-- The statements that make the table and save a batch, chunk by chunk, compile. Every parameter is
converted to the type of the column that it fills, and the j-th row that is stored holds the j-th
record. -/
theorem inserted_records_read_back (name : String) (ifNotExists : Bool) {cars : List Car}
    (hcars : cars ≠ []) :
    ∃ create table inserts batches,
      Sql.compile name [] (.createTable ifNotExists) = .ok create ∧
      tableOf? create = some table ∧
      (table = (idColumn, .int4) :: Column.all.map fun c =>
        (c.name, if c = .year then .int4 else .text)) ∧
      ((Sql.insertChunks cars).mapM fun chunk => Sql.compile name [] (.run (.insert chunk))) =
        .ok inserts ∧
      inserts.mapM (storedBy table) = .ok batches ∧ List.Forall₂ Holds batches.flatten cars := by
  obtain ⟨inserts, hinserts, hstored⟩ :=
    mapM_storedBy name _ (Sql.ne_nil_of_mem_insertChunks hcars)
  have hcreate : Sql.compile name [] (.createTable ifNotExists) = .ok _ := rfl
  refine ⟨_, recordTable, inserts, _, hcreate, tableOf?_compile hcreate, rfl, hinserts, hstored, ?_⟩
  rw [← List.map_flatten, Sql.flatten_insertChunks, List.forall₂_map_left_iff, List.forall₂_same]
  exact fun car _ id answer h => readRow_of_perm h

/-- One record more than fits into a statement, with the greatest year and texts in several scripts. -/
def crowdedBatch : List Car :=
  List.replicate Sql.maxInsertRows { regNum := "А001АА 77" } ++
    [{ regNum := "\"Ж\" $1", mark := "", model := "𐀀; --", year := 65535,
       owner := { name := "ё", surname := "漢字", patronymic := " 12 " } }]

theorem chunks_crowdedBatch : (Sql.insertChunks crowdedBatch).length = 2 := by
  apply Sql.length_insertChunks_of_one_more
  rw [crowdedBatch, List.length_append, List.length_replicate, List.length_singleton]

/-- The record that goes into the second statement is read back from its row, in front of a negative
id. -/
theorem last_record_read_back :
    crowdedBatch ≠ [] ∧ (Sql.insertChunks crowdedBatch).length = 2 ∧
    ∃ table inserts batches row,
      ((Sql.insertChunks crowdedBatch).mapM fun chunk =>
        Sql.compile "cars" [] (.run (.insert chunk))) = .ok inserts ∧
      inserts.mapM (storedBy table) = .ok batches ∧ batches.flatten[Sql.maxInsertRows]? = some row ∧
      readRow (row ++ [idCell (-7)]) = .ok
        { id := -7, regNum := "\"Ж\" $1", mark := "", model := "𐀀; --", year := 65535,
          owner := { name := "ё", surname := "漢字", patronymic := " 12 " } } := by
  have hne : crowdedBatch ≠ [] := List.append_ne_nil_of_right_ne_nil _ (List.cons_ne_nil _ _)
  obtain ⟨_, table, inserts, batches, _, _, _, hinserts, hstored, hholds⟩ :=
    inserted_records_read_back "cars" true hne
  have hlast := List.forall₂_drop_append batches.flatten _ _ hholds
  rw [List.length_replicate] at hlast
  obtain ⟨row, _, hrow, hnil, heq⟩ := List.forall₂_cons_right_iff.1 hlast
  refine ⟨hne, chunks_crowdedBatch, table, inserts, batches, row, hinserts, hstored, ?_, ?_⟩
  · rw [← List.head?_drop, heq, List.head?_cons]
  · exact hrow (-7) (row ++ [idCell (-7)]) (List.perm_append_singleton _ _)

end VehicleRecords.Postgres
