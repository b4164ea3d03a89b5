import Mathlib.Data.List.Nodup
import Spreadsheet.Grid

/-
  The cells of a grid.

  Only finitely many cells of the plane have a text, those
  that lie in the rectangle of the grid.  So do the cells with
  formulas, and whatever holds of all of them can be checked
  cell by cell.  To write a text into a cell changes what is
  read in this cell only.

  Key definitions include:
    * `Spreadsheet.Grid.places`
    * `Spreadsheet.Grid.formulaCells`

  Main results:
    * `Spreadsheet.Grid.read_outside`
    * `Spreadsheet.Grid.mem_formulaCells_iff`
    * `Spreadsheet.Grid.nodup_formulaCells`
    * `Spreadsheet.Grid.read_write_self`
    * `Spreadsheet.Grid.read_write_ne`
-/

------------------------------------------------------------
-- Cells With Texts
------------------------------------------------------------

namespace Spreadsheet

namespace Grid

/- No row is wider than the grid. -/
theorem width_le_columns
    {grid : Grid}
    {row : Option (List (Option String))}
    (hRow : row ∈ grid) :
    width row ≤ grid.columns := by
  have hWidth : width row ∈ grid.map width :=
    List.mem_map_of_mem hRow
  unfold columns
  rw [List.foldl_max_eq_max (List.ne_nil_of_mem hWidth)]
  exact Nat.le_trans (List.le_max_of_mem hWidth)
    (Nat.le_max_right _ _)

/- Nothing is read where there is no row or no column. -/
theorem read_outside
    {grid : Grid}
    {cell : Cell}
    (hOutside : cell.row < 0 ∨ cell.col < 0 ∨
      grid.length ≤ cell.row.toNat ∨
      grid.columns ≤ cell.col.toNat) :
    grid.read cell = "" := by
  unfold read
  split
  · rfl
  · split
    · rename_i cells hRow
      have hWidth : cells.length ≤ grid.columns :=
        width_le_columns (List.mem_of_getElem? hRow)
      have hLength := (List.getElem?_eq_some_iff.mp hRow).1
      rw [List.getElem?_eq_none (by omega)]
    · rfl

/- The cells of a grid, row by row. -/
def places
    (grid : Grid) :
    List (List Cell) :=
  (List.range grid.length).map fun row : Nat =>
    (List.range grid.columns).map fun col : Nat =>
      ⟨row, col⟩

/- A cell with a text is one of the cells of the grid. -/
theorem mem_places_of_read_ne
    {grid : Grid}
    {cell : Cell}
    (hRead : grid.read cell ≠ "") :
    cell ∈ grid.places.flatten := by
  have hInside :
      ¬(cell.row < 0 ∨ cell.col < 0 ∨
        grid.length ≤ cell.row.toNat ∨
        grid.columns ≤ cell.col.toNat) :=
    fun hOutside => hRead (read_outside hOutside)
  rw [List.mem_flatten]
  refine ⟨(List.range grid.columns).map
    fun col : Nat => ⟨cell.row.toNat, col⟩, ?_, ?_⟩
  · rw [places, List.mem_map]
    exact ⟨cell.row.toNat,
      List.mem_range.mpr (by omega), rfl⟩
  · rw [List.mem_map]
    refine ⟨cell.col.toNat,
      List.mem_range.mpr (by omega), ?_⟩
    rw [Int.toNat_of_nonneg (by omega),
      Int.toNat_of_nonneg (by omega)]

/- The cells of a grid lie in no negative column. -/
theorem col_nonneg_of_mem_places
    {grid : Grid}
    {cell : Cell}
    (hCell : cell ∈ grid.places.flatten) :
    0 ≤ cell.col := by
  simp only [places, List.mem_flatten, List.mem_map] at hCell
  rcases hCell with ⟨_, ⟨row, -, rfl⟩, hCell⟩
  rcases List.mem_map.mp hCell with ⟨col, -, rfl⟩
  exact Int.natCast_nonneg col

/- The grid has each of its cells once. -/
theorem nodup_places
    (grid : Grid) :
    grid.places.flatten.Nodup := by
  rw [List.nodup_flatten, places, List.pairwise_map]
  constructor
  · intro row hRow
    rw [List.mem_map] at hRow
    rcases hRow with ⟨index, -, rfl⟩
    apply List.nodup_range.map
    intro first second hSame
    exact Int.ofNat_inj.mp (congrArg Cell.col hSame)
  · refine List.nodup_range.imp ?_
    intro first second hDiffers cell hFirst hSecond
    simp only [List.mem_map] at hFirst hSecond
    rcases hFirst with ⟨_, -, rfl⟩
    rcases hSecond with ⟨_, -, hSame⟩
    exact hDiffers
      (Int.ofNat_inj.mp (congrArg Cell.row hSame).symm)

end Grid

end Spreadsheet

------------------------------------------------------------
-- Cells With Formulas
------------------------------------------------------------

namespace Spreadsheet

namespace Grid

/- The cells whose texts are formulas, row by row. -/
def formulaCells
    (grid : Grid) :
    List Cell :=
  grid.places.flatten.filter fun cell =>
    isFormula (grid.read cell)

theorem mem_formulaCells_iff
    {grid : Grid}
    {cell : Cell} :
    cell ∈ grid.formulaCells ↔
      isFormula (grid.read cell) = true := by
  rw [formulaCells, List.mem_filter]
  constructor
  · exact And.right
  · intro hFormula
    refine ⟨mem_places_of_read_ne ?_, hFormula⟩
    intro hRead
    rw [hRead] at hFormula
    cases hFormula

/- So the list of its formulas is as long as they are many. -/
theorem nodup_formulaCells
    (grid : Grid) :
    grid.formulaCells.Nodup :=
  grid.nodup_places.filter _

end Grid

end Spreadsheet

------------------------------------------------------------
-- Written Cells
------------------------------------------------------------

namespace Spreadsheet

namespace Grid

section Replacing

variable {α : Type}
variable (filling : α)
variable (replace : α → α)
variable (place : Nat)
variable (items : List α)

/- The item at the place is replaced, or else the filling. -/
theorem getElem?_replaceAt_self :
    (replaceAt filling replace place items)[place]? =
      some (replace (items[place]?.getD filling)) := by
  rw [replaceAt, List.getElem?_modify_eq]
  rcases Nat.lt_or_ge place items.length with hInside | hBehind
  · rw [List.getElem?_append_left hInside,
      List.getElem?_eq_getElem hInside]
    rfl
  · rw [List.getElem?_append_right hBehind,
      List.getElem?_replicate, if_pos (by omega),
      List.getElem?_eq_none hBehind]
    rfl

/- Items at other places stay, or the filling comes there. -/
theorem getElem?_replaceAt_ne
    {other : Nat}
    (hOther : other ≠ place) :
    (replaceAt filling replace place items)[other]? =
        items[other]? ∨
      items[other]? = none ∧
        (replaceAt filling replace place items)[other]? =
          some filling := by
  rw [replaceAt, List.getElem?_modify_ne _ _ hOther.symm]
  rcases Nat.lt_or_ge other items.length with hInside | hBehind
  · exact .inl (List.getElem?_append_left hInside)
  · rw [List.getElem?_append_right hBehind,
      List.getElem?_replicate, List.getElem?_eq_none hBehind]
    split
    · exact .inr ⟨rfl, rfl⟩
    · exact .inl rfl

end Replacing

/- The raw text of a cell of a row. -/
def rawAt
    (cells : List (Option String))
    (col : Nat) :
    String :=
  match cells[col]? with
  | some (some raw) => raw
  | _ => ""

theorem read_eq_rawAt
    (grid : Grid)
    {cell : Cell}
    (hInside : ¬(cell.row < 0 ∨ cell.col < 0)) :
    grid.read cell =
      rawAt
        (cellsOf (grid[cell.row.toNat]?.getD (some [])))
        cell.col.toNat := by
  rw [read, if_neg hInside]
  rcases grid[cell.row.toNat]? with _ | _ | cells
  · rfl
  · rfl
  · rfl

variable (grid : Grid)
variable (row col : Nat)

/- The text that was written into a cell is read in it. -/
theorem read_write_self
    (raw : String) :
    (grid.write row col (some raw)).read ⟨row, col⟩ = raw := by
  rw [read_eq_rawAt _ (by simp), Int.toNat_natCast,
    Int.toNat_natCast, write, getElem?_replaceAt_self]
  simp only [Option.getD_some, cellsOf, rawAt,
    getElem?_replaceAt_self]

/- All other cells stay as they were. -/
theorem read_write_ne
    (raw : Option String)
    {cell : Cell}
    (hCell : cell ≠ ⟨row, col⟩) :
    (grid.write row col raw).read cell = grid.read cell := by
  by_cases hOutside : cell.row < 0 ∨ cell.col < 0
  · rw [read, read, if_pos hOutside, if_pos hOutside]
  rw [read_eq_rawAt _ hOutside, read_eq_rawAt _ hOutside,
    write]
  by_cases hRow : cell.row.toNat = row
  · -- In the row of the cell another column is read.
    have hCol : cell.col.toNat ≠ col := by
      rintro rfl
      apply hCell
      rw [← hRow, Int.toNat_of_nonneg (by omega),
        Int.toNat_of_nonneg (by omega)]
    rw [hRow, getElem?_replaceAt_self]
    simp only [Option.getD_some, cellsOf, rawAt]
    rcases getElem?_replaceAt_ne (some "") (fun _ => raw) col
        ((grid[row]?.getD (some [])).getD []) hCol with
      hSame | ⟨hNone, hFilling⟩
    · rw [hSame]
    · rw [hNone, hFilling]
  · rcases getElem?_replaceAt_ne (some [])
        (fun cells => some (replaceAt (some "")
          (fun _ => raw) col (cellsOf cells)))
        row grid hRow with
      hSame | ⟨hNone, hFilling⟩
    · rw [hSame]
    · rw [hNone, hFilling]
      rfl

end Grid

end Spreadsheet
