/-!
Cutting a list of characters or bytes at a separator and joining pieces again. `intercalate_cut`
says that nothing is lost.
-/
namespace VehicleRecords.Text

variable {α : Type} [DecidableEq α]

/-- The pieces between the occurrences of `sep`; a text without `sep` is one piece. -/
def cut (sep : α) : List α → List (List α)
  | [] => [[]]
  | c :: rest =>
    if c = sep then [] :: cut sep rest
    else
      match cut sep rest with
      | [] => [[c]]
      | piece :: pieces => (c :: piece) :: pieces

/-- The text before the first `sep` and, when there is one, the text after it. -/
def cutOnce (sep : α) : List α → List α × Option (List α)
  | [] => ([], none)
  | c :: rest =>
    if c = sep then ([], some rest)
    else
      let (before, after) := cutOnce sep rest
      (c :: before, after)

theorem cut_ne_nil (sep : α) (s : List α) : cut sep s ≠ [] := by
  cases s with
  | nil => simp [cut]
  | cons c rest =>
    by_cases h : c = sep
    · simp [cut, h]
    · cases hr : cut sep rest <;> simp [cut, h, hr]

theorem intercalate_cut (sep : α) (s : List α) : [sep].intercalate (cut sep s) = s := by
  induction s with
  | nil => rfl
  | cons c rest ih =>
    by_cases h : c = sep
    · subst h
      cases hr : cut c rest with
      | nil => exact absurd hr (cut_ne_nil c rest)
      | cons piece pieces =>
        simp [cut, hr, List.intercalate] at ih ⊢
        exact ih
    · cases hr : cut sep rest with
      | nil => exact absurd hr (cut_ne_nil sep rest)
      | cons piece pieces =>
        cases pieces <;> simp [cut, h, hr, List.intercalate] at ih ⊢ <;>
          exact ih

/-- A word equals another up to the case of its ASCII letters. -/
def sameWord (a b : String) : Bool :=
  a.toList.map Char.toLower == b.toList.map Char.toLower

end VehicleRecords.Text
