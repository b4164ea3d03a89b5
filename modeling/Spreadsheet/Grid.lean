import Spreadsheet.Address
import Spreadsheet.Coercion

/-
  Grids.

  A grid is a list of rows of raw texts.  Rows and cells may
  be missing, and all cells that a grid does not have read as
  empty texts.  A raw text behind an equals sign is a formula
  and any other one stands for itself.

  Key definitions include:
    * `Spreadsheet.Grid`
    * `Spreadsheet.Grid.read`
    * `Spreadsheet.Grid.write`
    * `Spreadsheet.isFormula`
-/

------------------------------------------------------------
-- Grids
------------------------------------------------------------

namespace Spreadsheet

/- Rows of raw texts, some of which may be missing. -/
abbrev Grid := List (Option (List (Option String)))

namespace Grid

/- The raw text of a cell; empty where there is none. -/
def read
    (grid : Grid)
    (cell : Cell) :
    String :=
  if cell.row < 0 ∨ cell.col < 0 then
    ""
  else
    match grid[cell.row.toNat]? with
    | some (some cells) =>
        match cells[cell.col.toNat]? with
        | some (some raw) => raw
        | _ => ""
    | _ => ""

/- The length of a row. -/
def width :
    Option (List (Option String)) → Nat
  | some cells => cells.length
  | none => 0

/- The number of columns: the length of the longest row. -/
def columns
    (grid : Grid) :
    Nat :=
  (grid.map width).foldl max 0

/- Replace the item at a place, after filling up to it. -/
def replaceAt
    {α : Type}
    (filling : α)
    (replace : α → α)
    (place : Nat)
    (items : List α) :
    List α :=
  let missing := place + 1 - items.length
  (items ++ List.replicate missing filling).modify
    place replace

/- The cells of a row, none if the row is missing. -/
def cellsOf
    (row : Option (List (Option String))) :
    List (Option String) :=
  row.getD []

/-
  Write a raw text into a cell.  Rows that are needed are
  added without cells and cells that are needed with empty
  texts.
-/
def write
    (grid : Grid)
    (row col : Nat)
    (raw : Option String) :
    Grid :=
  replaceAt (some [])
    (fun cells =>
      some (replaceAt (some "") (fun _ => raw) col
        (cellsOf cells)))
    row grid

end Grid

end Spreadsheet

------------------------------------------------------------
-- Formulas Among Raw Texts
------------------------------------------------------------

namespace Spreadsheet

/- The formula text behind the mark of a formula, if any. -/
def formulaBody? :
    List Char → Option (List Char)
  | '=' :: body => some body
  | _ => none

/- A raw text that is a formula. -/
def isFormula
    (raw : String) :
    Bool :=
  (formulaBody? raw.toList).isSome

end Spreadsheet
