import Mathlib.Data.List.TakeWhile

/-
  Stretches of characters at the front of a text.

  Main results:
    * `Spreadsheet.Text.takeWhile_append_stop`
    * `Spreadsheet.Text.dropWhile_append_stop`
    * `Spreadsheet.Text.takeWhile_append_other`
    * `Spreadsheet.Text.dropWhile_append_other`
    * `Spreadsheet.Text.stop_of_head_dropWhile`
-/

------------------------------------------------------------
-- Where Stretches End
------------------------------------------------------------

namespace Spreadsheet

namespace Text

variable {part : Char → Bool}
variable {front rest : List Char}

/- A stretch ends where what follows is no part of it. -/
theorem takeWhile_append_stop
    (hFront : ∀ c ∈ front, part c = true)
    (hStop : ∀ c ∈ rest.head?, part c = false) :
    (front ++ rest).takeWhile part = front := by
  rw [List.takeWhile_append_of_pos hFront]
  cases rest with
  | nil => exact List.append_nil front
  | cons c rest => simp [hStop c rfl]

theorem dropWhile_append_stop
    (hFront : ∀ c ∈ front, part c = true)
    (hStop : ∀ c ∈ rest.head?, part c = false) :
    (front ++ rest).dropWhile part = rest := by
  rw [List.dropWhile_append_of_pos hFront]
  cases rest with
  | nil => rfl
  | cons c rest => simp [hStop c rfl]

/- No stretch goes beyond a character that is no part. -/
theorem takeWhile_append_other
    {other : Char}
    (hOther : part other = false) :
    (front ++ other :: rest).takeWhile part =
      front.takeWhile part := by
  induction front with
  | nil => simp [hOther]
  | cons c front ih =>
      rw [List.cons_append, List.takeWhile_cons,
        List.takeWhile_cons, ih]

theorem dropWhile_append_other
    {other : Char}
    (hOther : part other = false) :
    (front ++ other :: rest).dropWhile part =
      front.dropWhile part ++ other :: rest := by
  induction front with
  | nil => simp [hOther]
  | cons c front ih =>
      rw [List.cons_append, List.dropWhile_cons,
        List.dropWhile_cons, ih]
      split <;> rfl

/- What follows a stretch is no part of it. -/
theorem stop_of_head_dropWhile
    (part : Char → Bool)
    (text : List Char) :
    ∀ c ∈ (text.dropWhile part).head?, part c = false := by
  intro c hHead
  have hNot := List.head?_dropWhile_not part text
  rw [Option.mem_def.mp hHead] at hNot
  exact hNot

end Text

end Spreadsheet
