import Mathlib.Data.List.TakeDrop
import VehicleRecords.Text.Split

/-!
Cutting what was joined. A piece without the separator is found again in front of it, and marks that no
piece has are not in the whole. Words that differ in case only have the same letters.
-/
namespace VehicleRecords.Text

variable {α : Type} [DecidableEq α]

theorem cut_of_not_mem (sep : α) (s : List α) (h : sep ∉ s) : cut sep s = [s] := by
  induction s with
  | nil => rfl
  | cons c s ih =>
    rw [List.mem_cons, not_or] at h
    rw [cut, if_neg (Ne.symm h.1), ih h.2]

theorem cut_append (sep : α) (s rest : List α) (h : sep ∉ s) :
    cut sep (s ++ sep :: rest) = s :: cut sep rest := by
  induction s with
  | nil => rw [List.nil_append, cut, if_pos rfl]
  | cons c s ih =>
    rw [List.mem_cons, not_or] at h
    rw [List.cons_append, cut, if_neg (Ne.symm h.1), ih h.2]

/-- A separator between two texts cuts them apart, whatever else is cut in them. -/
theorem cut_append_cons (sep : α) (s rest : List α) :
    cut sep (s ++ sep :: rest) = cut sep s ++ cut sep rest := by
  induction s with
  | nil => simp only [List.nil_append, cut, if_true, List.singleton_append]
  | cons c s ih =>
    simp only [List.cons_append, cut, ih]
    by_cases hc : c = sep
    · rw [if_pos hc, if_pos hc, List.cons_append]
    · rw [if_neg hc, if_neg hc]
      cases hcut : cut sep s with
      | nil => exact absurd hcut (cut_ne_nil sep s)
      | cons piece pieces => rfl

/-- Pieces without the separator are found again where they were joined. -/
theorem cut_intercalate (sep : α) (pieces : List (List α)) (hne : pieces ≠ [])
    (h : ∀ piece ∈ pieces, sep ∉ piece) : cut sep ([sep].intercalate pieces) = pieces := by
  induction pieces with
  | nil => exact absurd rfl hne
  | cons piece pieces ih =>
    have hpiece := h piece List.mem_cons_self
    cases pieces with
    | nil => rw [List.intercalate_singleton, cut_of_not_mem sep piece hpiece]
    | cons next pieces =>
      have ih := ih (List.cons_ne_nil next pieces) fun p hp => h p (List.mem_cons_of_mem _ hp)
      rw [List.intercalate_cons_cons, List.append_assoc, List.singleton_append,
        cut_append sep piece _ hpiece, ih]

omit [DecidableEq α] in
/-- A joined text holds what its pieces and the separator hold. -/
theorem not_mem_intercalate {sep c : α} (hsep : c ≠ sep) (pieces : List (List α))
    (h : ∀ piece ∈ pieces, c ∉ piece) : c ∉ [sep].intercalate pieces := by
  induction pieces with
  | nil => exact List.not_mem_nil
  | cons piece pieces ih =>
    have hpiece := h piece List.mem_cons_self
    cases pieces with
    | nil => rwa [List.intercalate_singleton]
    | cons next pieces =>
      have ih := ih fun p hp => h p (List.mem_cons_of_mem _ hp)
      rw [List.intercalate_cons_cons, List.append_assoc, List.singleton_append, List.mem_append,
        List.mem_cons]
      rintro (hmem | heq | hmem)
      · exact hpiece hmem
      · exact hsep heq
      · exact ih hmem

/-- Two texts have no character in common where it was checked for each of them. -/
theorem disjoint_of_all {marks s : List Char} (h : (s.all fun c => !marks.contains c) = true) :
    marks.Disjoint s := by
  intro c hmark hc
  have hnot := List.all_eq_true.1 h c hc
  rw [List.contains_iff_mem.2 hmark] at hnot
  cases hnot

theorem disjoint_intercalate {marks : List Char} {sep : Char} (hsep : sep ∉ marks)
    {pieces : List (List Char)} (h : ∀ piece ∈ pieces, marks.Disjoint piece) :
    marks.Disjoint ([sep].intercalate pieces) := by
  intro c hc
  refine not_mem_intercalate ?_ pieces fun piece hpiece => h piece hpiece hc
  rintro rfl
  exact hsep hc

/-- A text has no separator, or it goes on behind a first one. -/
theorem cut_cases (sep : α) (s : List α) :
    (sep ∉ s ∧ cut sep s = [s]) ∨
    ∃ before rest, sep ∉ before ∧ s = before ++ sep :: rest ∧ cut sep s = before :: cut sep rest := by
  by_cases h : sep ∈ s
  · obtain ⟨before, rest, hs, hbefore⟩ := List.eq_append_cons_of_mem h
    exact .inr ⟨before, rest, hbefore, hs, by rw [hs, cut_append sep before rest hbefore]⟩
  · exact .inl ⟨h, cut_of_not_mem sep s h⟩

theorem cutOnce_of_not_mem (sep : α) (s : List α) (h : sep ∉ s) : cutOnce sep s = (s, none) := by
  induction s with
  | nil => rfl
  | cons c s ih =>
    rw [List.mem_cons, not_or] at h
    rw [cutOnce, if_neg (Ne.symm h.1), ih h.2]

theorem cutOnce_append (sep : α) (s rest : List α) (h : sep ∉ s) :
    cutOnce sep (s ++ sep :: rest) = (s, some rest) := by
  induction s with
  | nil => rw [List.nil_append, cutOnce, if_pos rfl]
  | cons c s ih =>
    rw [List.mem_cons, not_or] at h
    rw [List.cons_append, cutOnce, if_neg (Ne.symm h.1), ih h.2]

omit [DecidableEq α] in
/-- What a text begins with ends where something else begins. -/
theorem span_append {p : α → Bool} {s rest : List α} (hs : ∀ c ∈ s, p c = true)
    (hrest : ∀ c ∈ rest.head?, p c = false) : (s ++ rest).span p = (s, rest) := by
  rw [List.span_eq_takeWhile_dropWhile, List.takeWhile_append_of_pos hs,
    List.dropWhile_append_of_pos hs]
  cases rest with
  | nil => simp
  | cons c rest => simp [hrest c rfl]

theorem sameWord_iff (a b : String) :
    sameWord a b = true ↔ a.toList.map Char.toLower = b.toList.map Char.toLower := by
  rw [sameWord, beq_iff_eq]

theorem sameWord_of_common {a b word : String} (ha : sameWord a word = true)
    (hb : sameWord b word = true) : sameWord a b = true := by
  rw [sameWord_iff] at ha hb ⊢
  rw [ha, hb]

/-- A word has no character, other than a letter, that its other spellings do not have. -/
theorem not_mem_of_sameWord {a b : String} {c : Char} (h : sameWord a b = true)
    (ha : c.toLower ∉ a.toList.map Char.toLower) : c ∉ b.toList := by
  intro hc
  rw [(sameWord_iff a b).1 h] at ha
  exact ha (List.mem_map_of_mem hc)

/-- Among keywords that differ in more than case the one that a word spells is found. -/
theorem find?_sameWord {β : Type} (keyword : β → String) (all : List β)
    (hall : ∀ a ∈ all, ∀ b ∈ all, sameWord (keyword a) (keyword b) = true → a = b)
    (word : String) (a : β) :
    all.find? (fun x => sameWord (keyword x) word) = some a ↔
      a ∈ all ∧ sameWord (keyword a) word = true := by
  constructor
  · intro h
    have hword := List.find?_some h
    exact ⟨List.mem_of_find?_eq_some h, hword⟩
  · rintro ⟨ha, hword⟩
    cases hfind : all.find? (fun x => sameWord (keyword x) word) with
    | none => exact absurd hword (List.find?_eq_none.1 hfind a ha)
    | some b =>
      have hb := List.mem_of_find?_eq_some hfind
      have hbword := List.find?_some hfind
      rw [hall b hb a ha (sameWord_of_common hbword hword)]

end VehicleRecords.Text
