import Mathlib.Data.List.Forall2
import VehicleRecords.Store.Like

/-!
The meaning of `LIKE`. A text matches a pattern when it is one piece per pattern character; the
matcher finds exactly these texts (`like_iff`), and so exactly those that can be cut into such pieces
(`like_iff_exists_piecesOf`).
-/
namespace VehicleRecords.Store

/-- The text is made of pieces for the pattern's characters in order. -/
inductive Matches : List Char → List Char → Prop
  | nil : Matches [] []
  /-- `%` stands for any piece. -/
  | any (piece text pattern : List Char) (h : Matches text pattern) :
    Matches (piece ++ text) ('%' :: pattern)
  /-- `_` stands for any one character. -/
  | one (c : Char) (text pattern : List Char) (h : Matches text pattern) :
    Matches (c :: text) ('_' :: pattern)
  /-- Another character stands for itself. -/
  | same (c : Char) (text pattern : List Char) (hany : c ≠ '%') (hone : c ≠ '_')
    (h : Matches text pattern) : Matches (c :: text) (c :: pattern)

theorem like_any (piece text pattern : List Char) (h : like text pattern = true) :
    like (piece ++ text) ('%' :: pattern) = true := by
  induction piece with
  | nil =>
    cases text with
    | nil => simp [like, h]
    | cons x text => simp [like, h]
  | cons x piece ih => simp [like, ih]

theorem like_of_matches (text pattern : List Char) (h : Matches text pattern) :
    like text pattern = true := by
  induction h with
  | nil => rw [like]
  | any piece text pattern _ ih => exact like_any piece text pattern ih
  | one c text pattern _ ih => simp [like, ih]
  | same c text pattern hany hone _ ih => simp [like, ih, hany]

/-- By the recursion of the matcher: the piece of a `%` grows from the empty one. -/
theorem matches_of_like (text pattern : List Char) (h : like text pattern = true) :
    Matches text pattern := by
  induction text, pattern using like.induct with
  | case1 => exact .nil
  | case2 x text => simp [like] at h
  | case3 c pattern ih =>
    simp only [like, Bool.and_eq_true, beq_iff_eq] at h
    rw [h.1]
    exact .any [] [] pattern (ih h.2)
  | case4 x text c pattern hc ihskip ihtake =>
    rw [beq_iff_eq] at hc
    subst hc
    simp only [like, beq_self_eq_true, if_true, Bool.or_eq_true] at h
    rcases h with h | h
    · exact .any [] (x :: text) pattern (ihskip h)
    · -- The rest is matched by the same `%`, whose piece grows by one character.
      cases ihtake h with
      | any piece text pattern hrest => exact .any (x :: piece) text pattern hrest
      | same _ _ _ hany _ _ => exact absurd rfl hany
  | case5 x text c pattern hc ih =>
    rw [beq_iff_eq] at hc
    simp only [like, beq_iff_eq, hc, if_false, Bool.and_eq_true, Bool.or_eq_true] at h
    by_cases hone : c = '_'
    · rw [hone]
      exact .one x text pattern (ih h.2)
    · obtain rfl := h.1.resolve_left hone
      exact .same c text pattern hc hone (ih h.2)

/-- The matcher finds exactly the texts that match. -/
theorem like_iff (text pattern : List Char) : like text pattern = true ↔ Matches text pattern :=
  ⟨matches_of_like text pattern, like_of_matches text pattern⟩

instance (text pattern : List Char) : Decidable (Matches text pattern) :=
  decidable_of_iff _ (like_iff text pattern)

/-! ## Pieces -/

/-- `%` stands for any piece, `_` for a piece of one character, another character for itself. -/
def StandsFor (c : Char) (piece : List Char) : Prop :=
  if c = '%' then True else if c = '_' then piece.length = 1 else piece = [c]

/-- The pieces make up the text, and the characters of the pattern stand for them in order. -/
structure PiecesOf (text pattern : List Char) (pieces : List (List Char)) : Prop where
  flatten_eq : pieces.flatten = text
  standFor : List.Forall₂ StandsFor pattern pieces

theorem like_nil_iff (text : List Char) : like text [] = true ↔ text = [] := by
  cases text with
  | nil => simp [like]
  | cons x text => simp [like]

/-- A pattern matches when the text can be cut behind a piece for its first character, such that the
rest of the pattern matches the rest of the text. For `%` this is any cut of the text. -/
theorem like_cons_iff (text : List Char) (c : Char) (pattern : List Char) :
    like text (c :: pattern) = true ↔
      ∃ piece rest, piece ++ rest = text ∧ StandsFor c piece ∧ like rest pattern = true := by
  simp only [like_iff]
  constructor
  · intro h
    cases h with
    | any piece rest _ hrest => exact ⟨piece, rest, rfl, by simp [StandsFor], hrest⟩
    | one x rest _ hrest => exact ⟨[x], rest, rfl, by simp [StandsFor], hrest⟩
    | same _ rest _ hany hone hrest => exact ⟨[c], rest, rfl, by simp [StandsFor, hany, hone], hrest⟩
  · rintro ⟨piece, rest, rfl, hpiece, hrest⟩
    by_cases hany : c = '%'
    · subst hany
      exact .any piece rest pattern hrest
    · rw [StandsFor, if_neg hany] at hpiece
      by_cases hone : c = '_'
      · subst hone
        obtain ⟨x, rfl⟩ := List.length_eq_one_iff.1 hpiece
        exact .one x rest pattern hrest
      · rw [if_neg hone] at hpiece
        subst hpiece
        exact .same c rest pattern hany hone hrest

/-- A text matches when it can be cut into pieces, one for each character of the pattern. -/
theorem like_iff_exists_piecesOf (text pattern : List Char) :
    like text pattern = true ↔ ∃ pieces, PiecesOf text pattern pieces := by
  induction pattern generalizing text with
  | nil =>
    rw [like_nil_iff]
    constructor
    · rintro rfl
      exact ⟨[], rfl, .nil⟩
    · rintro ⟨pieces, rfl, hpieces⟩
      cases hpieces
      rfl
  | cons c pattern ih =>
    rw [like_cons_iff]
    constructor
    · rintro ⟨piece, rest, rfl, hpiece, hrest⟩
      obtain ⟨pieces, rfl, hpieces⟩ := (ih rest).1 hrest
      exact ⟨piece :: pieces, rfl, .cons hpiece hpieces⟩
    · rintro ⟨pieces, rfl, hpieces⟩
      cases hpieces with
      | cons hpiece hpieces => exact ⟨_, _, rfl, hpiece, (ih _).2 ⟨_, rfl, hpieces⟩⟩

end VehicleRecords.Store
