import Mathlib.Data.List.DropRight
import VehicleRecords.Text.Blank

/-!
Trimming, said without the way it is done: what is left stands between white space and neither begins
nor ends with any (`trimmed_iff`).
-/
namespace VehicleRecords.Text

/-- The text `t` is `s` without the white space at its ends. -/
structure Trimmed (s t : List Char) : Prop where
  within : ∃ before after, s = before ++ (t ++ after) ∧ (∀ c ∈ before, isBlank c = true) ∧
    ∀ c ∈ after, isBlank c = true
  first : ∀ h : t ≠ [], isBlank (t.head h) = false
  last : ∀ h : t ≠ [], isBlank (t.getLast h) = false

theorem trim_eq (s : List Char) : trim s = (s.dropWhile isBlank).rdropWhile isBlank := rfl

/-- Trimming leaves neither more nor less than what stands between the white space. -/
theorem trimmed_trim (s : List Char) : Trimmed s (trim s) := by
  rw [trim_eq]
  refine ⟨⟨s.takeWhile isBlank, (s.dropWhile isBlank).rtakeWhile isBlank, ?_,
    fun _ => List.mem_takeWhile_imp, fun _ => List.mem_rtakeWhile_imp⟩, fun h => ?_, fun h => ?_⟩
  · rw [List.rdropWhile_append_rtakeWhile, List.takeWhile_append_dropWhile]
  · -- White space is taken from the end of a text that begins with none.
    rw [(List.rdropWhile_prefix isBlank _).head h]
    exact List.head_dropWhile_not isBlank _
  · exact Bool.eq_false_iff.2 (List.rdropWhile_last_not isBlank _ h)

/-- White space behind a text that does not begin with any is not reached from its front. -/
theorem dropWhile_append_of_first {t : List Char} (ht : ∀ h : t ≠ [], isBlank (t.head h) = false)
    (after : List Char) (hafter : ∀ c ∈ after, isBlank c = true) :
    ((t ++ after).dropWhile isBlank).rdropWhile isBlank = (t ++ after).rdropWhile isBlank := by
  cases t with
  | nil =>
    have hnone := List.rdropWhile_eq_nil_iff.2 hafter
    rw [List.nil_append, List.dropWhile_eq_nil_iff.2 hafter, hnone]
    rfl
  | cons c t =>
    have hc : ¬ isBlank c = true := Bool.eq_false_iff.1 (ht (List.cons_ne_nil c t))
    rw [List.cons_append, List.dropWhile_cons_of_neg hc]

theorem rdropWhile_append_of_blank (t : List Char) {after : List Char}
    (hafter : ∀ c ∈ after, isBlank c = true) :
    (t ++ after).rdropWhile isBlank = t.rdropWhile isBlank := by
  rw [List.rdropWhile, List.reverse_append, List.dropWhile_append_of_pos, List.rdropWhile]
  intro c hc
  exact hafter c (List.mem_reverse.1 hc)

theorem trim_of_trimmed {s t : List Char} (h : Trimmed s t) : trim s = t := by
  obtain ⟨before, after, rfl, hbefore, hafter⟩ := h.within
  rw [trim_eq, List.dropWhile_append_of_pos hbefore, dropWhile_append_of_first h.first after hafter,
    rdropWhile_append_of_blank t hafter, List.rdropWhile_eq_self_iff]
  exact fun hne => Bool.eq_false_iff.1 (h.last hne)

theorem trimmed_iff (s t : List Char) : Trimmed s t ↔ trim s = t := by
  constructor
  · exact trim_of_trimmed
  · rintro rfl
    exact trimmed_trim s

end VehicleRecords.Text
