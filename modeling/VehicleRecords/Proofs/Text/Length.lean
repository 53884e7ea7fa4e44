import Mathlib.Algebra.GroupWithZero.Nat
import VehicleRecords.Proofs.Text.Split
import VehicleRecords.Text.Form

namespace VehicleRecords.Text

/-- Every character is read from a byte of its own, and so is a fault. -/
theorem Utf8.length_readBehind_le (before : Option Utf8.Partial) (bytes : Bytes) :
    (Utf8.readBehind before bytes).length ≤ bytes.length + (if before.isSome then 1 else 0) := by
  induction bytes generalizing before with
  | nil => cases before <;> simp [Utf8.readBehind]
  | cons b rest ih =>
    have hnone := ih none
    have hsome (p : Utf8.Partial) := ih (some p)
    simp only [Option.isSome_none, Option.isSome_some, Bool.false_eq_true, if_false, if_true]
      at hnone hsome
    -- An unfinished character is a byte that nothing was read from yet.
    have hfaults : (if before.isSome then [(none : Option Char)] else []).length =
        if before.isSome then 1 else 0 := by
      cases before <;> rfl
    rw [Utf8.readBehind]
    split
    · next p hp =>
      have hbefore : before.isSome := by
        cases before with
        | none => cases hp
        | some _ => rfl
      rw [if_pos hbefore, List.length_cons]
      split
      · rw [List.length_cons]
        omega
      · exact Nat.le_trans (hsome _) (by omega)
    · dsimp only
      split
      · rw [List.length_append, hfaults, List.length_cons, List.length_cons]
        omega
      · next p _ =>
        have hp := hsome p
        rw [List.length_append, hfaults, List.length_cons]
        omega
      · rw [List.length_append, hfaults, List.length_cons, List.length_cons]
        omega

theorem length_percentDecode_le (bytes : Bytes) :
    (percentDecode bytes).length ≤ bytes.length := by
  fun_induction percentDecode bytes with
  | case1 high low rest h l hhigh hlow ih =>
    simp only [List.length_cons]
    omega
  | case2 high low rest hnone ih =>
    simp only [List.length_cons] at ih ⊢
    omega
  | case3 b rest hnone ih =>
    rw [List.length_cons, List.length_cons]
    omega
  | case4 => exact Nat.le_refl 0

theorem Form.length_decodePart_le (part : Bytes) :
    (Form.decodePart part).toList.length ≤ part.length := by
  have hread := Utf8.length_readBehind_le none
    (percentDecode (part.map fun b => if b = 0x2B then 0x20 else b))
  have hdecode := length_percentDecode_le (part.map fun b => if b = 0x2B then 0x20 else b)
  rw [List.length_map] at hdecode
  rw [Form.decodePart, String.toList_ofList, Utf8.decodeLenient, List.length_map, Utf8.read]
  exact Nat.le_trans hread hdecode

section Cut

variable {α : Type} [DecidableEq α]

/-- The pieces of a text, each with a separator behind it, have one more than the text. -/
theorem sum_cut (sep : α) (s : List α) :
    ((cut sep s).map fun piece => piece.length + 1).sum = s.length + 1 := by
  induction s with
  | nil => rfl
  | cons c s ih =>
    rw [cut]
    split
    · rw [List.map_cons, List.sum_cons, ih, List.length_nil, List.length_cons]
      omega
    · cases hcut : cut sep s with
      | nil => exact absurd hcut (cut_ne_nil sep s)
      | cons piece pieces =>
        rw [hcut, List.map_cons, List.sum_cons] at ih
        rw [List.map_cons, List.sum_cons, List.length_cons, List.length_cons]
        omega

theorem sublist_of_cutOnce (sep : α) (s : List α) :
    (cutOnce sep s).1.Sublist s ∧ ∀ after, (cutOnce sep s).2 = some after → after.Sublist s := by
  by_cases h : sep ∈ s
  · obtain ⟨before, rest, rfl, hbefore⟩ := List.eq_append_cons_of_mem h
    rw [cutOnce_append sep before rest hbefore]
    refine ⟨List.sublist_append_left before _, ?_⟩
    rintro after ⟨⟩
    exact ((List.sublist_cons_self sep rest).trans (List.sublist_append_right before _))
  · rw [cutOnce_of_not_mem sep s h]
    exact ⟨List.Sublist.refl s, nofun⟩

end Cut

end VehicleRecords.Text
