import VehicleRecords.Proofs.Postgres.Turn
import VehicleRecords.Proofs.Sql.Text

/-!
The prepared statements that a connection keeps, turn by turn: a new one for each text of fixed shape
that it prepares, and none from a successful drop of the table on. What is kept was prepared since the
last drop (`Steps.preparedSince`), and no text of fixed shape is prepared again (`Steps.prepares_le_one`).
-/
namespace VehicleRecords.Postgres

abbrev Kept : Type := List (String × Prepared)

namespace Turn

def Drops (table : String) (turn : Turn) : Prop :=
  ∃ ifExists c, Sql.compile table [] (.dropTable ifExists) = .ok c ∧ turn = .simple c.sql (.ok ())

def handle? : Turn → Option Prepared
  | .execute p .. | .query p .. => some p
  | _ => none

/-- Neither a preparation nor a statement without parameters succeeds, so what is kept stays. -/
def isQuiet : Turn → Bool
  | .prepare _ (.ok _) | .simple _ (.ok _) => false
  | _ => true

def prepares (text : String) : Turn → Bool
  | .prepare sql (.ok _) => sql == text
  | _ => false

end Turn

/-- The last successful drop of the table, if there is one, came before a preparation of the text that
gave the prepared statement. -/
def PreparedSince (table text : String) (p : Prepared) (log : List Turn) : Prop :=
  ∃ before after, log = before ++ .prepare text (.ok p) :: after ∧
    ∀ turn ∈ after, ¬ turn.Drops table

/-- What a turn does to the statements that are kept. -/
inductive Step (table : String) (kept : Kept) : Turn → Kept → Prop
  | new (op : Operation) (hfixed : (Sql.Statement.run op).hasFixedShape = true) (text : String)
    (htext : Sql.HasText table op text) (hnew : kept.lookup text = none) (p : Prepared) :
    Step table kept (.prepare text (.ok p)) ((text, p) :: kept)
  | once (op : Operation) (hfixed : (Sql.Statement.run op).hasFixedShape = false) (text : String)
    (htext : Sql.HasText table op text) (p : Prepared) :
    Step table kept (.prepare text (.ok p)) kept
  | dropped (turn : Turn) (h : turn.Drops table) : Step table kept turn []
  | other (turn : Turn) (hprepare : ∀ text p, turn ≠ .prepare text (.ok p))
    (hdrop : ¬ turn.Drops table) : Step table kept turn kept

inductive Steps (table : String) : Kept → List Turn → Kept → Prop
  | nil (kept : Kept) : Steps table kept [] kept
  | cons {kept between after : Kept} {turn : Turn} {talk : List Turn}
    (h : Step table kept turn between) (rest : Steps table between talk after) :
    Steps table kept (turn :: talk) after

variable {table : String} {kept after : Kept}

theorem not_drops_prepare (text : String) (answer : Except Failure Prepared) :
    ¬ (Turn.prepare text answer).Drops table := by
  rintro ⟨_, _, _, hturn⟩
  cases hturn

theorem step_of_isQuiet {turn : Turn} (h : turn.isQuiet = true) : Step table kept turn kept := by
  refine .other turn ?_ ?_
  · rintro text p rfl
    cases h
  · rintro ⟨_, c, _, rfl⟩
    cases h

namespace Steps

theorem append {between : Kept} {talk more : List Turn} (h : Steps table kept talk between)
    (hmore : Steps table between more after) : Steps table kept (talk ++ more) after := by
  induction h with
  | nil => exact hmore
  | cons hturn _ ih => exact .cons hturn (ih hmore)

theorem split {talk more : List Turn} (h : Steps table kept (talk ++ more) after) :
    ∃ between, Steps table kept talk between ∧ Steps table between more after := by
  induction talk generalizing kept with
  | nil => exact ⟨kept, .nil kept, h⟩
  | cons turn talk ih =>
    cases h with
    | cons hturn rest =>
      obtain ⟨between, hfront, hback⟩ := ih rest
      exact ⟨between, .cons hturn hfront, hback⟩

theorem of_forall {talk : List Turn} (h : ∀ turn ∈ talk, Step table kept turn kept) :
    Steps table kept talk kept := by
  induction talk with
  | nil => exact .nil kept
  | cons turn talk ih =>
    rw [List.forall_mem_cons] at h
    exact .cons h.1 (ih h.2)

end Steps

/-! ## What is kept -/

/-- No text is kept twice, and each belongs to an operation of fixed shape. -/
structure Tidy (table : String) (kept : Kept) : Prop where
  nodup : (kept.map Prod.fst).Nodup
  fixed : ∀ entry ∈ kept, ∃ op, (Sql.Statement.run op).hasFixedShape = true ∧
    Sql.HasText table op entry.1

theorem not_mem_of_lookup {text : String} (h : kept.lookup text = none) :
    text ∉ kept.map Prod.fst := by
  intro hmem
  obtain ⟨entry, hentry, rfl⟩ := List.mem_map.1 hmem
  exact bne_iff_ne.1 (List.lookup_eq_none_iff.1 h entry hentry) rfl

theorem tidy_nil : Tidy table [] := ⟨List.nodup_nil, nofun⟩

/-- A statement is prepared only when its text is not kept. -/
theorem Step.tidy {turn : Turn} (h : Step table kept turn after) (htidy : Tidy table kept) :
    Tidy table after := by
  cases h with
  | new op hfixed text htext hnew p =>
    refine ⟨?_, ?_⟩
    · rw [List.map_cons, List.nodup_cons]
      exact ⟨not_mem_of_lookup hnew, htidy.nodup⟩
    · rw [List.forall_mem_cons]
      exact ⟨⟨op, hfixed, htext⟩, htidy.fixed⟩
  | once => exact htidy
  | dropped => exact tidy_nil
  | other => exact htidy

theorem Steps.tidy {talk : List Turn} (h : Steps table kept talk after) (htidy : Tidy table kept) :
    Tidy table after := by
  induction h with
  | nil => exact htidy
  | cons hturn _ ih => exact ih (hturn.tidy htidy)

/-- However the server answers, at most as many statements are kept as there are texts of fixed
shape. -/
theorem Tidy.length_le (h : Tidy table kept) : kept.length ≤ 129 := by
  -- Each kept text is another one of the texts of fixed shape.
  have hsubset : (kept.map Prod.fst).toFinset ⊆ Sql.fixedTexts table := by
    intro text htext
    obtain ⟨entry, hentry, rfl⟩ := List.mem_map.1 (List.mem_toFinset.1 htext)
    obtain ⟨op, hfixed, hop⟩ := h.fixed entry hentry
    exact Sql.mem_fixedTexts (Sql.fixedText_of_hasText hfixed hop)
  calc kept.length
    _ = (kept.map Prod.fst).toFinset.card := by
      rw [List.toFinset_card_of_nodup h.nodup, List.length_map]
    _ ≤ (Sql.fixedTexts table).card := Finset.card_le_card hsubset
    _ ≤ 129 := Sql.card_fixedTexts_le table

theorem Tidy.hasFixedShape (h : Tidy table kept) {entry : String × Prepared} (hentry : entry ∈ kept)
    {op : Operation} (hop : Sql.HasText table op entry.1) :
    (Sql.Statement.run op).hasFixedShape = true := by
  obtain ⟨op', hfixed, hop'⟩ := h.fixed entry hentry
  have htext := (Sql.text_of_hasText hop').symm.trans (Sql.text_of_hasText hop)
  exact Sql.hasFixedShape_of_text htext hfixed

/-! ## Since when it is kept -/

theorem PreparedSince.append {text : String} {p : Prepared} {log : List Turn} {turn : Turn}
    (h : PreparedSince table text p log) (hturn : ¬ turn.Drops table) :
    PreparedSince table text p (log ++ [turn]) := by
  obtain ⟨before, after, rfl, hafter⟩ := h
  refine ⟨before, after ++ [turn], by rw [List.append_assoc, List.cons_append], ?_⟩
  rw [List.forall_mem_append, List.forall_mem_singleton]
  exact ⟨hafter, hturn⟩

/-- A turn keeps what was kept, unless it drops the table, and may add what it prepares. -/
theorem Step.preparedSince {turn : Turn} {log : List Turn} (h : Step table kept turn after)
    (hkept : ∀ entry ∈ kept, PreparedSince table entry.1 entry.2 log) :
    ∀ entry ∈ after, PreparedSince table entry.1 entry.2 (log ++ [turn]) := by
  cases h with
  | new _ _ text _ _ p =>
    rw [List.forall_mem_cons]
    refine ⟨⟨log, [], rfl, nofun⟩, fun entry hentry => ?_⟩
    exact (hkept entry hentry).append (not_drops_prepare text _)
  | once _ _ text _ _ =>
    exact fun entry hentry => (hkept entry hentry).append (not_drops_prepare text _)
  | dropped => exact nofun
  | other _ _ hdrop => exact fun entry hentry => (hkept entry hentry).append hdrop

theorem Steps.preparedSince {talk log : List Turn} (h : Steps table kept talk after)
    (hkept : ∀ entry ∈ kept, PreparedSince table entry.1 entry.2 log) :
    ∀ entry ∈ after, PreparedSince table entry.1 entry.2 (log ++ talk) := by
  -- Each turn moves from what is kept to the log before the next one.
  induction h generalizing log with
  | nil => rwa [List.append_nil]
  | cons hturn _ ih =>
    rw [List.append_cons]
    exact ih (hturn.preparedSince hkept)

/-! ## How often it is prepared -/

/-- As long as the table is not dropped, a text of fixed shape is kept once more for each time that it
is prepared. -/
theorem Step.count {stmt : Sql.Statement} (hfixed : stmt.hasFixedShape = true) {turn : Turn}
    (h : Step table kept turn after) (hdrop : ¬ turn.Drops table) :
    (after.map Prod.fst).count (stmt.text table) =
      (kept.map Prod.fst).count (stmt.text table) + [turn].countP (Turn.prepares (stmt.text table)) := by
  rw [List.countP_singleton]
  cases h with
  | new op _ text _ _ p => rw [List.map_cons, List.count_cons]; rfl
  | once op honce text htext p =>
    -- A text of fixed shape is not that of an operation whose text depends on its values.
    have hother : (text == stmt.text table) = false := by
      rw [beq_eq_false_iff_ne, Sql.text_of_hasText htext]
      intro heq
      rw [Sql.hasFixedShape_of_text heq.symm hfixed] at honce
      cases honce
    rw [Turn.prepares, hother]
    rfl
  | dropped _ h => exact absurd h hdrop
  | other _ hprepare _ =>
    cases turn with
    | prepare text answer =>
      cases answer with
      | ok p => exact absurd rfl (hprepare text p)
      | error _ => rfl
    | simple | execute | query | start | commit | rollback => rfl

/-- By induction on the turns. -/
theorem Steps.count {stmt : Sql.Statement} (hfixed : stmt.hasFixedShape = true) {talk : List Turn}
    (h : Steps table kept talk after) (hdrop : ∀ turn ∈ talk, ¬ turn.Drops table) :
    (after.map Prod.fst).count (stmt.text table) =
      (kept.map Prod.fst).count (stmt.text table) + talk.countP (Turn.prepares (stmt.text table)) := by
  induction h with
  | nil => rfl
  | @cons _ _ _ turn talk hturn _ ih =>
    rw [List.forall_mem_cons] at hdrop
    rw [ih hdrop.2, hturn.count hfixed hdrop.1, Nat.add_assoc, ← List.countP_append,
      List.singleton_append]

/-- Between two successful drops of the table a text of fixed shape is prepared once at most. -/
theorem Steps.prepares_le_one {before span rest : List Turn} (htidy : Tidy table kept)
    (h : Steps table kept (before ++ (span ++ rest)) after)
    (hdrop : ∀ turn ∈ span, ¬ turn.Drops table) {stmt : Sql.Statement} {c : Sql.Compiled}
    (hfixed : stmt.hasFixedShape = true) (hc : Sql.compile table [] stmt = .ok c) :
    span.countP (Turn.prepares c.sql) ≤ 1 := by
  obtain ⟨first, hbefore, hspan⟩ := h.split
  obtain ⟨last, hspan, _⟩ := hspan.split
  have hcount := hspan.count hfixed hdrop
  -- Behind the span the text is kept once at most.
  have honce := List.nodup_iff_count_le_one.1 (hspan.tidy (hbefore.tidy htidy)).nodup (stmt.text table)
  rw [Sql.sql_of_compile hc]
  omega

end VehicleRecords.Postgres
