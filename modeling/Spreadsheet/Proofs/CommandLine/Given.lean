import Spreadsheet.CommandLine.Response
import Spreadsheet.Proofs.Address.Area
import Spreadsheet.Proofs.Grid.Cells
import Spreadsheet.Proofs.Steps

/-
  The grid of given cells.

  Cells are given by items, each a label and a raw text around
  an equals sign.  Their grid is a rectangle that just holds
  them and one row more, in which a formula stands first.  To
  write into a cell of a rectangle leaves it the rectangle it
  is, so that nothing is written outside of it, and in a cell
  that is given several times the last text is read.

  Key definitions include:
    * `Spreadsheet.Grid.IsRectangle`
    * `Spreadsheet.CommandLine.GivenCell.IsGivenBy`
    * `Spreadsheet.CommandLine.lastGiven?`
    * `Spreadsheet.CommandLine.IsGridOf`

  Main results:
    * `Spreadsheet.Grid.isRectangle_write`
    * `Spreadsheet.CommandLine.GivenCell.ofText_eq_ok_iff`
    * `Spreadsheet.CommandLine.isGridOf_gridOf`
-/

------------------------------------------------------------
-- Rectangles
------------------------------------------------------------

namespace Spreadsheet

namespace Grid

/- All rows are there, and each has so many texts. -/
def IsRectangle
    (grid : Grid)
    (rows cols : Nat) :
    Prop :=
  grid.length = rows ∧
    ∀ row ∈ grid, ∃ texts : List String,
      row = some (texts.map some) ∧ texts.length = cols

/- Nothing is filled up where there is an item to replace. -/
theorem replaceAt_of_lt
    {α : Type}
    {place : Nat}
    {items : List α}
    (hInside : place < items.length)
    (filling : α)
    (replace : α → α) :
    replaceAt filling replace place items =
      items.modify place replace := by
  have hMissing : place + 1 - items.length = 0 :=
    Nat.sub_eq_zero_of_le hInside
  rw [replaceAt, hMissing, List.replicate_zero,
    List.append_nil]

/- A cell of a rectangle is written where it is. -/
theorem isRectangle_write
    {grid : Grid}
    {rows cols : Nat}
    (hGrid : grid.IsRectangle rows cols)
    {row col : Nat}
    (hRow : row < rows)
    (hCol : col < cols)
    (raw : String) :
    (grid.write row col (some raw)).IsRectangle rows cols := by
  rcases hGrid with ⟨rfl, hRows⟩
  rw [write, replaceAt_of_lt hRow]
  refine ⟨List.length_modify _ _ _, ?_⟩
  intro found hFound
  rcases List.mem_iff_getElem?.mp hFound with ⟨index, hIndex⟩
  rw [List.getElem?_modify] at hIndex
  cases hOld : grid[index]? with
  | none =>
      rw [hOld] at hIndex
      cases hIndex
  | some old =>
      rcases hRows old (List.mem_of_getElem? hOld) with
        ⟨texts, rfl, hLength⟩
      simp only [hOld, Option.map_eq_map, Option.map_some,
        Option.some.injEq] at hIndex
      split at hIndex
      case isTrue =>
        refine ⟨texts.set col raw, ?_, ?_⟩
        · rw [← hIndex, cellsOf, Option.getD_some,
            replaceAt_of_lt (by simpa [hLength] using hCol),
            ← List.set_eq_modify, List.map_set]
        · rw [List.length_set, hLength]
      case isFalse => exact ⟨texts, hIndex.symm, hLength⟩

end Grid

end Spreadsheet

------------------------------------------------------------
-- Items
------------------------------------------------------------

namespace Spreadsheet

namespace CommandLine

/- What is said about a label of no cell, if anything is. -/
def labelRefusal :
    LabelFault → Refusal
  | .malformed label =>
      .told (LabelFault.malformed label).message
  | .rowTooLong _ => .escaped .rowTooLong

namespace GivenCell

/-
  An item gives a cell a raw text: a label of the cell stands
  in front of its first equals sign and the raw text behind.
-/
def IsGivenBy
    (given : GivenCell)
    (item : String) :
    Prop :=
  ∃ label : String, '=' ∉ label.toList ∧
    item.toList = label.toList ++ '=' :: given.raw.toList ∧
    Cell.ofLabel label = .ok given.cell

/- An item without an equals sign is told to be none. -/
theorem ofText_of_unmarked
    {item : String}
    (hMark : '=' ∉ item.toList) :
    ofText item =
      .error (.told ("Invalid --cell format: " ++
        shownText item ++ ". Use A1=value.")) := by
  have hNone : item.toList.dropWhile (· ≠ '=') = [] := by
    rw [List.dropWhile_eq_nil_iff]
    intro c hMember
    exact decide_eq_true fun hSame => hMark (hSame ▸ hMember)
  simp only [ofText, hNone]

/- An item with one has a label in front of the first. -/
theorem exists_parts
    {item : String}
    (hMark : '=' ∈ item.toList) :
    ∃ label raw : String, '=' ∉ label.toList ∧
      item.toList = label.toList ++ '=' :: raw.toList := by
  rcases List.eq_append_cons_of_mem hMark with
    ⟨front, behind, hItem, hFront⟩
  refine ⟨String.ofList front, String.ofList behind, ?_, ?_⟩
  · rwa [String.toList_ofList]
  · rw [String.toList_ofList, String.toList_ofList, hItem]

/- What becomes of an item is up to its label. -/
theorem ofText_of_parts
    {item label raw : String}
    (hLabel : '=' ∉ label.toList)
    (hItem :
      item.toList = label.toList ++ '=' :: raw.toList) :
    ofText item =
      ((Cell.ofLabel label).map fun cell =>
        GivenCell.mk cell raw).mapError labelRefusal := by
  have hFront :
      ∀ c ∈ label.toList, decide (c ≠ '=') = true := by
    intro c hMember
    exact decide_eq_true fun hSame =>
      hLabel (hSame ▸ hMember)
  have hStop :
      ∀ c ∈ ('=' :: raw.toList).head?,
        decide (c ≠ '=') = false := by
    simp
  have hTake := Text.takeWhile_append_stop hFront hStop
  have hDrop := Text.dropWhile_append_stop hFront hStop
  simp only [ofText, hItem, hTake, hDrop, String.ofList_toList]
  cases Cell.ofLabel label with
  | ok cell => rfl
  | error fault =>
      cases fault with
      | malformed label => rfl
      | rowTooLong digits => rfl

theorem ofText_eq_ok_iff
    {item : String}
    {given : GivenCell} :
    ofText item = .ok given ↔ given.IsGivenBy item := by
  constructor
  · intro hText
    by_cases hMark : '=' ∈ item.toList
    · rcases exists_parts hMark with
        ⟨label, raw, hLabel, hItem⟩
      rw [ofText_of_parts hLabel hItem] at hText
      cases hCell : Cell.ofLabel label with
      | ok cell =>
          rw [hCell] at hText
          cases hText
          exact ⟨label, hLabel, hItem, hCell⟩
      | error fault =>
          rw [hCell] at hText
          cases hText
    · rw [ofText_of_unmarked hMark] at hText
      cases hText
  · rintro ⟨label, hLabel, hItem, hCell⟩
    rw [ofText_of_parts hLabel hItem, hCell]
    rfl

/- Given cells have labels, so that none is below zero. -/
theorem isLabelled_of_isGivenBy
    {given : GivenCell}
    {item : String}
    (hGiven : given.IsGivenBy item) :
    given.cell.IsLabelled := by
  rcases hGiven with ⟨label, _, _, hCell⟩
  exact Cell.isLabelled_of_ofLabel hCell

theorem forall_isLabelled
    {items : List String}
    {given : List GivenCell}
    (hGiven :
      List.Forall₂ (fun item cell => IsGivenBy cell item)
        items given) :
    ∀ found ∈ given, found.cell.IsLabelled := by
  induction hGiven with
  | nil => exact List.forall_mem_nil _
  | cons hFirst _ ih =>
      exact List.forall_mem_cons.mpr
        ⟨isLabelled_of_isGivenBy hFirst, ih⟩

/- Items are read if each of them gives a cell. -/
theorem mapM_ofText_eq_ok_iff
    {items : List String}
    {given : List GivenCell} :
    items.mapM ofText = .ok given ↔
      List.Forall₂ (fun item cell => IsGivenBy cell item)
        items given := by
  simp only [mapM_eq_ok_iff, ofText_eq_ok_iff]

end GivenCell

end CommandLine

end Spreadsheet

------------------------------------------------------------
-- The Extent Of Given Cells
------------------------------------------------------------

namespace Spreadsheet

namespace CommandLine

/- A number of a list, or the first one, is the greatest. -/
theorem foldl_max_spec
    (first : Nat)
    (numbers : List Nat) :
    first ≤ numbers.foldl max first ∧
      (∀ n ∈ numbers, n ≤ numbers.foldl max first) ∧
      (numbers.foldl max first = first ∨
        numbers.foldl max first ∈ numbers) := by
  by_cases hNone : numbers = []
  · rw [hNone]
    simp
  · rw [List.foldl_max_eq_max hNone]
    refine ⟨Nat.le_max_left _ _, fun n hMember => ?_, ?_⟩
    · exact (List.le_max_of_mem hMember).trans
        (Nat.le_max_right _ _)
    · rcases Nat.le_total (numbers.max hNone) first with
        hLess | hLess
      · exact Or.inl (Nat.max_eq_left hLess)
      · rw [Nat.max_eq_right hLess]
        exact Or.inr (List.max_mem hNone)

section Extent

variable {given : List GivenCell}

/- All cells lie above the rows that are counted. -/
theorem row_lt_rowsOf
    {cell : GivenCell}
    (hMember : cell ∈ given) :
    cell.cell.row < rowsOf given := by
  have hRow :=
    (foldl_max_spec 0 _).2.1 _
      (List.mem_map_of_mem
        (f := fun cell : GivenCell => (cell.cell.row + 1).toNat)
        hMember)
  unfold rowsOf
  omega

theorem rowsOf_reached :
    rowsOf given = 0 ∨
      ∃ cell ∈ given, cell.cell.row + 1 = rowsOf given := by
  rcases (foldl_max_spec 0 (given.map fun cell =>
    (cell.cell.row + 1).toNat)).2.2 with hNone | hReached
  · exact Or.inl hNone
  · rcases List.mem_map.mp hReached with ⟨cell, hMember, hRow⟩
    have hLess := row_lt_rowsOf hMember
    change (cell.cell.row + 1).toNat = rowsOf given at hRow
    by_cases hNone : rowsOf given = 0
    · exact Or.inl hNone
    · exact Or.inr ⟨cell, hMember, by omega⟩

/- All cells lie in the columns that are counted. -/
theorem col_lt_columnsOf
    {cell : GivenCell}
    (hMember : cell ∈ given) :
    cell.cell.col < columnsOf given := by
  have hCol :=
    (foldl_max_spec 1 _).2.1 _
      (List.mem_map_of_mem
        (f := fun cell : GivenCell => (cell.cell.col + 1).toNat)
        hMember)
  unfold columnsOf
  omega

theorem columnsOf_pos :
    0 < columnsOf given :=
  (foldl_max_spec 1 _).1

theorem columnsOf_reached :
    columnsOf given = 1 ∨
      ∃ cell ∈ given, cell.cell.col + 1 = columnsOf given := by
  rcases (foldl_max_spec 1 (given.map fun cell =>
    (cell.cell.col + 1).toNat)).2.2 with hOne | hReached
  · exact Or.inl hOne
  · rcases List.mem_map.mp hReached with ⟨cell, hMember, hCol⟩
    have hPositive : 0 < columnsOf given := columnsOf_pos
    change (cell.cell.col + 1).toNat = columnsOf given at hCol
    exact Or.inr ⟨cell, hMember, by omega⟩

end Extent

end CommandLine

end Spreadsheet

------------------------------------------------------------
-- The Grid Of Given Cells
------------------------------------------------------------

namespace Spreadsheet

namespace CommandLine

/- The last of the given cells that is a cell. -/
def lastGiven?
    (given : List GivenCell)
    (cell : Cell) :
    Option GivenCell :=
  given.reverse.find? fun found => found.cell = cell

/-
  A grid just holds given cells and a row below them, in which
  a raw text stands first.  Each cell that is given has the
  last text given for it, and all others are empty.
-/
structure IsGridOf
    (grid : Grid)
    (given : List GivenCell)
    (bottom width : Nat)
    (raw : String) :
    Prop where
  above : ∀ found ∈ given,
    0 ≤ found.cell.row ∧ found.cell.row < bottom
  within : ∀ found ∈ given,
    0 ≤ found.cell.col ∧ found.cell.col < width
  lowest : bottom = 0 ∨
    ∃ found ∈ given, found.cell.row + 1 = bottom
  widest : width = 1 ∨
    ∃ found ∈ given, found.cell.col + 1 = width
  rectangle : grid.IsRectangle (bottom + 1) width
  reads : ∀ cell : Cell,
    grid.read cell =
      if cell = ⟨bottom, 0⟩ then raw
      else ((lastGiven? given cell).map GivenCell.raw).getD ""

/- Write given cells into a grid, one after the other. -/
def writeGiven
    (grid : Grid)
    (given : List GivenCell) :
    Grid :=
  given.foldl
    (fun grid cell =>
      grid.write cell.cell.row.toNat cell.cell.col.toNat
        (some cell.raw))
    grid

theorem isRectangle_writeGiven
    {rows cols : Nat}
    {given : List GivenCell}
    (hInside : ∀ found ∈ given,
      found.cell.row.toNat < rows ∧
        found.cell.col.toNat < cols)
    {grid : Grid}
    (hGrid : grid.IsRectangle rows cols) :
    (writeGiven grid given).IsRectangle rows cols := by
  induction given generalizing grid with
  | nil => exact hGrid
  | cons first rest ih =>
      rw [List.forall_mem_cons] at hInside
      exact ih hInside.2 (Grid.isRectangle_write hGrid
        hInside.1.1 hInside.1.2 first.raw)

/- Of the texts that are given for a cell the last is read. -/
theorem read_writeGiven
    {given : List GivenCell}
    (hAll : ∀ found ∈ given, found.cell.IsLabelled)
    (grid : Grid)
    (cell : Cell) :
    (writeGiven grid given).read cell =
      ((lastGiven? given cell).map GivenCell.raw).getD
        (grid.read cell) := by
  induction given generalizing grid with
  | nil => rfl
  | cons first rest ih =>
      rw [List.forall_mem_cons] at hAll
      have hPlace :
          (⟨first.cell.row.toNat, first.cell.col.toNat⟩ : Cell) =
            first.cell := by
        rw [Int.toNat_of_nonneg hAll.1.row_nonneg,
          Int.toNat_of_nonneg hAll.1.col_nonneg]
      have hStep :
          (writeGiven grid (first :: rest)).read cell = _ :=
        ih hAll.2 (grid.write first.cell.row.toNat
          first.cell.col.toNat (some first.raw))
      rw [hStep, lastGiven?, lastGiven?, List.reverse_cons,
        List.find?_append]
      cases rest.reverse.find? fun found => found.cell = cell with
      | some found => rfl
      | none =>
          by_cases hCell : first.cell = cell
          · have hRead := Grid.read_write_self grid
              first.cell.row.toNat first.cell.col.toNat first.raw
            rw [hPlace, hCell] at hRead
            simp [hCell, hRead]
          · have hOther :
                cell ≠ ⟨first.cell.row.toNat,
                  first.cell.col.toNat⟩ :=
              fun hSame => hCell (hSame.trans hPlace).symm
            have hRead := Grid.read_write_ne grid
              first.cell.row.toNat first.cell.col.toNat
              (some first.raw) hOther
            simp [hCell, hRead]

theorem isRectangle_emptyGrid
    (rows cols : Nat) :
    (emptyGrid rows cols).IsRectangle rows cols := by
  refine ⟨List.length_replicate, ?_⟩
  intro row hRow
  rw [List.eq_of_mem_replicate hRow]
  exact ⟨List.replicate cols "", by rw [List.map_replicate],
    List.length_replicate⟩

theorem read_emptyGrid
    (rows cols : Nat)
    (cell : Cell) :
    (emptyGrid rows cols).read cell = "" := by
  rw [emptyGrid, Grid.read]
  split
  · rfl
  · split
    case h_1 cells hRow =>
      have hCells :=
        List.eq_of_mem_replicate (List.mem_of_getElem? hRow)
      cases hCells
      split
      case h_1 raw hCell =>
        have hRaw :=
          List.eq_of_mem_replicate (List.mem_of_getElem? hCell)
        exact Option.some.inj hRaw
      case h_2 => rfl
    case h_2 => rfl

/- The grid of given cells is what it should be. -/
theorem isGridOf_gridOf
    {given : List GivenCell}
    (hAll : ∀ found ∈ given, found.cell.IsLabelled)
    (raw : String) :
    IsGridOf (gridOf given raw) given (rowsOf given)
      (columnsOf given) raw where
  above found hFound :=
    ⟨(hAll found hFound).row_nonneg, row_lt_rowsOf hFound⟩
  within found hFound :=
    ⟨(hAll found hFound).col_nonneg, col_lt_columnsOf hFound⟩
  lowest := rowsOf_reached
  widest := columnsOf_reached
  rectangle := by
    apply Grid.isRectangle_write
    · apply isRectangle_writeGiven
      · intro found hFound
        have hRow := row_lt_rowsOf hFound
        have hCol := col_lt_columnsOf hFound
        have hPositive : 0 < columnsOf given :=
          columnsOf_pos
        omega
      · exact isRectangle_emptyGrid _ _
    · exact Nat.lt_succ_self _
    · exact columnsOf_pos
  reads cell := by
    split
    case isTrue hBottom =>
      rw [hBottom]
      exact Grid.read_write_self _ _ _ _
    case isFalse hOther =>
      have hBelow :
          (gridOf given raw).read cell =
            (writeGiven (emptyGrid (rowsOf given + 1)
              (columnsOf given)) given).read cell :=
        Grid.read_write_ne _ _ _ _ hOther
      rw [hBelow, read_writeGiven hAll, read_emptyGrid]

end CommandLine

end Spreadsheet
