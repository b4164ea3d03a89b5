import Spreadsheet.Proofs.Address.Inverse

/-
  The cells of an area in order.

  A label that is read holds no colon, so two labels around a
  colon are read as the area between their cells.  It is the
  same area for all pairs of opposite corners, and its cells
  are listed row by row: each cell between the corners once,
  and as many as there are rows times columns.

  Key definitions include:
    * `Spreadsheet.Cell.Precedes`
    * `Spreadsheet.Area.AreCorners`

  Main results:
    * `Spreadsheet.Area.pairwise_cells`
    * `Spreadsheet.Area.length_cells`
    * `Spreadsheet.Area.ofText_labels`
    * `Spreadsheet.Area.cells_of_corners`
-/

------------------------------------------------------------
-- Row By Row
------------------------------------------------------------

namespace Spreadsheet

/- Rows count before columns. -/
def Cell.Precedes
    (cell other : Cell) : Prop :=
  cell.row < other.row ∨
    cell.row = other.row ∧ cell.col < other.col

namespace Area

/- A span ascends. -/
theorem pairwise_span
    (first last : Int) :
    (span first last).Pairwise (· < ·) := by
  rw [span, List.pairwise_map]
  exact List.pairwise_lt_range.imp fun hLess => by omega

theorem length_span
    (first last : Int) :
    (span first last).length = (last - first + 1).toNat := by
  rw [span, List.length_map, List.length_range]

/- The cells of an area ascend, and none is listed twice. -/
theorem pairwise_cells
    (area : Area) :
    area.cells.Pairwise Cell.Precedes := by
  rw [cells, List.pairwise_flatMap]
  constructor
  · intro row _
    rw [List.pairwise_map]
    exact (pairwise_span _ _).imp fun hLess =>
      .inr ⟨rfl, hLess⟩
  · refine (pairwise_span _ _).imp fun hLess => ?_
    intro cell hCell other hOther
    rcases List.mem_map.mp hCell with ⟨_, -, rfl⟩
    rcases List.mem_map.mp hOther with ⟨_, -, rfl⟩
    exact .inl hLess

/- An area has as many cells as its rows and columns say. -/
theorem length_cells
    (area : Area) :
    area.cells.length =
      (area.last.row - area.first.row + 1).toNat *
        (area.last.col - area.first.col + 1).toNat := by
  rw [cells, List.length_flatMap]
  simp only [List.length_map, length_span]
  rw [List.map_const', List.sum_replicate, length_span,
    smul_eq_mul]

end Area

end Spreadsheet

------------------------------------------------------------
-- Labels Around A Colon
------------------------------------------------------------

namespace Spreadsheet

/- A label that is read holds no colon. -/
theorem Cell.colon_not_mem_of_ofLabel
    {text : String}
    {cell : Cell}
    (hRead : ofLabel text = .ok cell) :
    ':' ∉ text.toList := by
  intro hColon
  rcases parts_of_ofLabel hRead with
    ⟨letters, digits, hText, -, hLetters, hDigits, -, -⟩
  rcases Text.exists_trim text.toList with
    ⟨before, after, hBefore, hAfter, hParts⟩
  have hInside : ':' ∈ Text.trim text.toList := by
    rw [hParts, List.mem_append, List.mem_append] at hColon
    rcases hColon with hColon | hColon | hColon
    · exact absurd (hBefore _ hColon) (by decide)
    · exact hColon
    · exact absurd (hAfter _ hColon) (by decide)
  have hUpper :
      ':' ∈ Text.upper (Text.trim text.toList) :=
    List.mem_flatMap.mpr ⟨':', hInside, by decide +kernel⟩
  rw [hText, List.mem_append] at hUpper
  rcases hUpper with hLetter | hDigit
  · exact absurd (hLetters _ hLetter) (by decide)
  · exact absurd (hDigits _ hDigit) (by decide +kernel)

namespace Area

/- Two labels around a colon are read as an area. -/
theorem ofText_labels
    {a b : String}
    {first last : Cell}
    (hFirst : Cell.ofLabel a = .ok first)
    (hLast : Cell.ofLabel b = .ok last) :
    ofText (a ++ ":" ++ b) = .ok (between first last) := by
  have hNone := Cell.colon_not_mem_of_ofLabel hFirst
  have hFront :
      ∀ c ∈ a.toList, decide (c ≠ ':') = true :=
    fun c hMember => decide_eq_true fun hSame =>
      hNone (hSame ▸ hMember)
  have hStop :
      ∀ c ∈ (':' :: b.toList).head?,
        decide (c ≠ ':') = false := by
    rintro c ⟨rfl⟩
    rfl
  have hText :
      (a ++ ":" ++ b).toList =
        a.toList ++ ':' :: b.toList := by
    rw [String.toList_append, String.toList_append,
      List.append_assoc]
    rfl
  simp only [ofText, hText]
  rw [Text.takeWhile_append_stop hFront hStop,
    Text.dropWhile_append_stop hFront hStop]
  simp only [String.ofList_toList, hFirst, hLast]
  rfl

end Area

end Spreadsheet

------------------------------------------------------------
-- Corners
------------------------------------------------------------

namespace Spreadsheet

namespace Area

/-
  Two cells are opposite corners of the area between two
  others, in one of four ways.
-/
structure AreCorners
    (first last corner opposite : Cell) : Prop where
  rows :
    corner.row = first.row ∧ opposite.row = last.row ∨
      corner.row = last.row ∧ opposite.row = first.row
  cols :
    corner.col = first.col ∧ opposite.col = last.col ∨
      corner.col = last.col ∧ opposite.col = first.col

/- Opposite corners have the same area between them. -/
theorem AreCorners.between_eq
    {first last corner opposite : Cell}
    (hCorners : AreCorners first last corner opposite) :
    between corner opposite = between first last := by
  rcases hCorners with ⟨hRows, hCols⟩
  simp only [between, mk.injEq, Cell.mk.injEq]
  omega

/- The other two corners have labels as well. -/
theorem exists_labels_of_corners
    {a b : String}
    {first last : Cell}
    (hFirst : Cell.ofLabel a = .ok first)
    (hLast : Cell.ofLabel b = .ok last) :
    ∃ c d,
      Cell.ofLabel c = .ok ⟨first.row, last.col⟩ ∧
      Cell.ofLabel d = .ok ⟨last.row, first.col⟩ := by
  have hA := Cell.isLabelled_of_ofLabel hFirst
  have hB := Cell.isLabelled_of_ofLabel hLast
  exact ⟨_, _,
    Cell.ofLabel_label
      ⟨hA.row_nonneg, hB.col_nonneg, hA.row_lt⟩,
    Cell.ofLabel_label
      ⟨hB.row_nonneg, hA.col_nonneg, hB.row_lt⟩⟩

/-
  Two labels around a colon list exactly the rectangle between
  their cells, row by row and each cell once.  The other two
  corners have labels too, and labels of opposite corners list
  the same cells in each of the four ways to write them.
-/
theorem cells_of_corners
    {a b : String}
    {first last : Cell}
    (hFirst : Cell.ofLabel a = .ok first)
    (hLast : Cell.ofLabel b = .ok last) :
    ∃ cells : List Cell,
      (ofText (a ++ ":" ++ b)).map Area.cells = .ok cells ∧
      cells.Pairwise Cell.Precedes ∧
      (∀ cell, cell ∈ cells ↔
        (min first.row last.row ≤ cell.row ∧
          cell.row ≤ max first.row last.row) ∧
        (min first.col last.col ≤ cell.col ∧
          cell.col ≤ max first.col last.col)) ∧
      cells.length =
        ((first.row - last.row).natAbs + 1) *
          ((first.col - last.col).natAbs + 1) ∧
      (∃ c d,
        Cell.ofLabel c = .ok ⟨first.row, last.col⟩ ∧
        Cell.ofLabel d = .ok ⟨last.row, first.col⟩) ∧
      ∀ (c d : String) (corner opposite : Cell),
        Cell.ofLabel c = .ok corner →
        Cell.ofLabel d = .ok opposite →
        AreCorners first last corner opposite →
        (ofText (c ++ ":" ++ d)).map Area.cells =
          .ok cells := by
  refine ⟨(between first last).cells, ?_, pairwise_cells _,
    fun cell => mem_cells_iff, ?_,
    exists_labels_of_corners hFirst hLast, ?_⟩
  · rw [ofText_labels hFirst hLast]
    rfl
  · rw [length_cells]
    simp only [between]
    congr 1 <;> omega
  · intro c d corner opposite hCorner hOpposite hCorners
    rw [ofText_labels hCorner hOpposite,
      hCorners.between_eq]
    rfl

/-
  The area between the lower left corner, in small letters and
  white space, and the upper right one; and from the other two.
-/
theorem cells_of_corners_mixed :
    Cell.ofLabel " y10\t" = .ok ⟨9, 24⟩ ∧
    Cell.ofLabel "AA09" = .ok ⟨8, 26⟩ ∧
    (ofText " y10\t:AA09").map Area.cells =
      .ok [⟨8, 24⟩, ⟨8, 25⟩, ⟨8, 26⟩,
        ⟨9, 24⟩, ⟨9, 25⟩, ⟨9, 26⟩] ∧
    (ofText "Y9:AA10").map Area.cells =
      (ofText " y10\t:AA09").map Area.cells := by
  have hFirst : Cell.ofLabel " y10\t" = .ok ⟨9, 24⟩ := by
    decide +kernel
  have hLast : Cell.ofLabel "AA09" = .ok ⟨8, 26⟩ := by
    decide +kernel
  have hCorner : Cell.ofLabel "Y9" = .ok ⟨8, 24⟩ := by
    decide +kernel
  have hOpposite : Cell.ofLabel "AA10" = .ok ⟨9, 26⟩ := by
    decide +kernel
  have hCorners :
      AreCorners ⟨9, 24⟩ ⟨8, 26⟩ ⟨8, 24⟩ ⟨9, 26⟩ :=
    ⟨.inr ⟨rfl, rfl⟩, .inl ⟨rfl, rfl⟩⟩
  rcases cells_of_corners hFirst hLast with
    ⟨cells, hCells, -, -, -, -, hSame⟩
  have hOther :=
    hSame _ _ _ _ hCorner hOpposite hCorners
  refine ⟨hFirst, hLast, ?_, hOther.trans hCells.symm⟩
  rw [show " y10\t:AA09" = " y10\t" ++ ":" ++ "AA09" from rfl,
    ofText_labels hFirst hLast]
  decide +kernel

end Area

end Spreadsheet
