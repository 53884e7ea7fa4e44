import VehicleRecords.Proofs.Sql.Insertion
import VehicleRecords.Proofs.Sql.Recovery

/-!
The name of the table in a compiled statement. Whatever the name is, with quotes, dollar signs or
comments in it, it is read as one token, and no other token of the text depends on it
(`table_name_is_one_token`).
-/
namespace VehicleRecords.Sql

open Fragment

def Statement.Kind.leading (k : Statement.Kind) : List Fragment := word k.opening :: k.beforeTable

/-- The place of the table's name among the tokens: behind the tokens of what leads up to it. -/
def Statement.tablePosition (stmt : Statement) : Nat :=
  (tokens (write 0 stmt.kind.leading).toList).length

/-- The tokens are the same everywhere but at `position`, where they are the two names. -/
structure DifferInName (position : Nat) (table₁ table₂ : String) (ts₁ ts₂ : List (Token Nat)) :
    Prop where
  length_eq : ts₁.length = ts₂.length
  first : ts₁[position]? = some (.name table₁)
  second : ts₂[position]? = some (.name table₂)
  elsewhere : ∀ i, i ≠ position → ts₁[i]? = ts₂[i]?

theorem differInName_append (table₁ table₂ : String) (front back : List (Token Nat)) :
    DifferInName front.length table₁ table₂ (front ++ .name table₁ :: back)
      (front ++ .name table₂ :: back) := by
  have hat (t : Token Nat) : (front ++ t :: back)[front.length]? = some t := by
    rw [List.getElem?_append_right (Nat.le_refl _), Nat.sub_self, List.getElem?_cons_zero]
  refine ⟨?_, hat _, hat _, ?_⟩
  · rw [List.length_append, List.length_append, List.length_cons, List.length_cons]
  · intro i hi
    rcases Nat.lt_or_gt_of_ne hi with hbefore | hbehind
    · rw [List.getElem?_append_left hbefore, List.getElem?_append_left hbefore]
    · obtain ⟨k, hk⟩ : ∃ k, i - front.length = k + 1 := ⟨i - front.length - 1, by omega⟩
      have hle : front.length ≤ i := Nat.le_of_lt hbehind
      rw [List.getElem?_append_right hle, List.getElem?_append_right hle, hk,
        List.getElem?_cons_succ, List.getElem?_cons_succ]

section Leading

variable (k : Statement.Kind)

theorem values_leading : values k.leading = [] := by
  cases k <;> rfl

/-- No value is bound in front of the table, so no number occurs there. -/
theorem numbered_leading (bound : Nat) : numbered bound k.leading = numbered 0 k.leading := by
  cases k <;> rfl

theorem legible_leading : Legible k.leading := by
  rcases k with (_ | _) | (_ | _) | _ | _ | _ | _
  case select => exact ⟨by decide, legible_append _ _ legible_rowColumns ⟨by decide, trivial⟩ rfl⟩
  all_goals exact ⟨by decide, trivial⟩

end Leading

/-- A statement is read as what leads up to the table, the table, and what follows it. -/
theorem numbered_fragments (bound : Nat) (table : String) (stmt : Statement) :
    numbered bound (stmt.fragments table ++ [word ";"]) =
      numbered 0 stmt.kind.leading ++ .name table :: numbered bound stmt.afterTable := by
  have hsplit : numbered bound (stmt.kind.leading ++ name table :: stmt.afterTable) =
      numbered 0 stmt.kind.leading ++ .name table :: numbered bound stmt.afterTable := by
    have hname : numbered bound (name table :: stmt.afterTable) =
        .name table :: numbered bound stmt.afterTable := rfl
    rw [numbered_append, values_leading, List.length_nil, Nat.add_zero, hname,
      numbered_leading _ bound]
  rw [← hsplit]
  cases stmt with
  | createTable ifNotExists =>
    -- The opening of a definition is written as two words and read as the symbols of one.
    simp only [Statement.fragments, Statement.kind, Statement.Kind.leading,
      Statement.Kind.beforeTable, Statement.afterTable, List.append_assoc, List.cons_append,
      List.nil_append]
    cases ifNotExists <;> rfl
  | dropTable ifExists => cases ifExists <;> rfl
  | run op =>
    cases op <;> simp only [Statement.fragments, Statement.kind, Statement.Kind.leading,
      Statement.Kind.beforeTable, Statement.Kind.opening, Statement.afterTable, List.append_assoc,
      List.cons_append, List.nil_append]

theorem length_leading (stmt : Statement) :
    ((numbered 0 stmt.kind.leading).map (Token.map Prod.fst)).length = stmt.tablePosition := by
  rw [Statement.tablePosition, tokens_write 0 _ (legible_leading stmt.kind)]

/-- Of the text of a compiled statement, the tokens around the table's name depend on the statement
and on the number of parameters before it. -/
theorem tokens_compile {table : String} {before : List Value} {stmt : Statement} {c : Compiled}
    (h : compile table before stmt = .ok c) :
    tokens c.sql.toList =
      (numbered 0 stmt.kind.leading).map (Token.map Prod.fst) ++
        .name table :: (numbered before.length stmt.afterTable).map (Token.map Prod.fst) := by
  have hsql : c.sql = write before.length (stmt.fragments table ++ [word ";"]) := by
    unfold compile at h
    split at h
    · cases h
    · cases h
      rfl
  have hname : Token.map Prod.fst (Token.name table : Token (Nat × Value)) = .name table := rfl
  rw [hsql, tokens_write _ _ (legible_fragments table stmt), numbered_fragments, List.map_append,
    List.map_cons, hname]

/-- A statement is refused under every table name or compiled under every one, and then two names
make a difference at the one token that stands for the table and holds the name itself. -/
theorem table_name_is_one_token (before : List Value) (stmt : Statement) (table₁ table₂ : String) :
    (stmt.Vacant ∧
      ∃ e, compile table₁ before stmt = .error e ∧ compile table₂ before stmt = .error e) ∨
    ∃ c₁ c₂, compile table₁ before stmt = .ok c₁ ∧ compile table₂ before stmt = .ok c₂ ∧
      DifferInName stmt.tablePosition table₁ table₂ (tokens c₁.sql.toList)
        (tokens c₂.sql.toList) := by
  cases hverify : stmt.verify with
  | error e =>
    have hrefused (table : String) : compile table before stmt = .error e := by
      rw [compile, hverify]
    exact .inl ⟨(verify_error_iff stmt).1 ⟨e, hverify⟩, e, hrefused table₁, hrefused table₂⟩
  | ok _ =>
    have haccepted (table : String) : ∃ c, compile table before stmt = .ok c := by
      rw [compile, hverify]
      exact ⟨_, rfl⟩
    obtain ⟨c₁, hc₁⟩ := haccepted table₁
    obtain ⟨c₂, hc₂⟩ := haccepted table₂
    refine .inr ⟨c₁, c₂, hc₁, hc₂, ?_⟩
    rw [tokens_compile hc₁, tokens_compile hc₂, ← length_leading]
    exact differInName_append table₁ table₂ _ _

end VehicleRecords.Sql
