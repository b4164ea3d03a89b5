import Spreadsheet.Evaluation.Formula
import Spreadsheet.Evaluation.Run
import Spreadsheet.Formula.Reading
import Spreadsheet.Grid
import Spreadsheet.Settings

/-
  Sheets.

  A sheet evaluates the cells of a grid on demand.  A cell
  that is reached again during its own evaluation closes a
  circle, and the number of cells that are being evaluated at
  one time is bounded.  Values are kept for later if the
  settings say so; failures never are.

  Key definitions include:
    * `Spreadsheet.Sheet`
    * `Spreadsheet.Inquiry.ofRaw`
    * `Spreadsheet.Progress.circle`
    * `Spreadsheet.Sheet.evaluateWithin`
    * `Spreadsheet.Sheet.evaluateCell`
    * `Spreadsheet.Sheet.resolveCell`
    * `Spreadsheet.Sheet.resolveRange`
-/

------------------------------------------------------------
-- Sheets
------------------------------------------------------------

namespace Spreadsheet

/- A grid with the settings and surroundings it is seen in. -/
structure Sheet where
  grid : Grid
  settings : Settings
  surroundings : Surroundings

end Spreadsheet

------------------------------------------------------------
-- Cells In Progress
------------------------------------------------------------

namespace Spreadsheet

namespace Progress

/-
  The circle that a cell closes: the part of the path, in the
  order of evaluation, that starts with the cell, and the cell
  again.
-/
def circle
    (progress : Progress)
    (cell : Cell) :
    List Cell :=
  progress.path.reverse.dropWhile (· ≠ cell) ++ [cell]

/- The evaluation of a cell begins. -/
def enter
    (progress : Progress)
    (cell : Cell) :
    Progress :=
  {
    progress with
    busy := progress.busy.insert cell
    path := cell :: progress.path
  }

/-
  The evaluation of a cell ends; it has to be the one that
  began last.
-/
def leave
    (progress : Progress)
    (cell : Cell) :
    Progress :=
  {
    progress with
    busy := progress.busy.erase cell
    path := progress.path.tail
  }

/- The value of a cell becomes known. -/
def keep
    (progress : Progress)
    (cell : Cell)
    (value : Value) :
    Progress :=
  {
    progress with
    known := progress.known.insert cell value
  }

end Progress

namespace Run

/- Run while a cell is on the path, however the run ends. -/
def inside
    {α : Type}
    (cell : Cell)
    (run : Run α) :
    Run α := do
  modify (·.enter cell)
  tryFinally run (modify (·.leave cell))

/-
  The known value of a cell.  A cell that is busy closes a
  circle, and any other one has to be computed.
-/
def knownOr
    (cell : Cell)
    (compute : Run Value) :
    Run Value := do
  let progress ← get
  match progress.known[cell]? with
  | some value => return value
  | none =>
      if cell ∈ progress.busy then
        throw (.circular (progress.circle cell))
      else
        compute

end Run

end Spreadsheet

------------------------------------------------------------
-- Raw Texts
------------------------------------------------------------

namespace Spreadsheet

namespace Inquiry

/- The value of a raw text over the values of cells. -/
def ofRaw
    (raw : String) :
    Inquiry Value :=
  match formulaBody? raw.toList with
  | some body =>
      match Expr.ofBody body with
      | .ok formula => formula.value
      | .error fault => settled (.error (.unreadable fault))
  | none => settled (Value.ofLiteral raw)

end Inquiry

end Spreadsheet

------------------------------------------------------------
-- Evaluation
------------------------------------------------------------

namespace Spreadsheet

namespace Sheet

/- Keep the value of a cell if values are kept. -/
def keep
    (sheet : Sheet)
    (cell : Cell)
    (value : Value) :
    Run Unit :=
  if sheet.settings.memoize then
    modify (·.keep cell value)
  else
    pure ()

/- What the value of a cell takes to find. -/
def inquiry
    (sheet : Sheet)
    (cell : Cell) :
    Inquiry Value :=
  .ofRaw (sheet.grid.read cell)

/-
  The value of a cell where the evaluations of `room` more
  cells may begin.
-/
def evaluateWithin
    (sheet : Sheet) :
    (room : Nat) → Cell → Run Value
  | 0, cell =>
      Run.knownOr cell
        (throw (.tooDeep sheet.settings.maxDepth))
  | room + 1, cell =>
      Run.knownOr cell do
        let value ← Run.inside cell
          ((sheet.inquiry cell).run sheet.surroundings
            (sheet.evaluateWithin room))
        sheet.keep cell value
        return value

/- The value of a cell. -/
def evaluateCell
    (sheet : Sheet)
    (cell : Cell) :
    Run Value := do
  let progress ← get
  sheet.evaluateWithin
    (sheet.settings.maxDepth - progress.path.length) cell

/- Make an inquiry about the cells of a sheet. -/
def resolve
    {α : Type}
    (sheet : Sheet)
    (inquiry : Inquiry α) :
    Run α :=
  inquiry.run sheet.surroundings sheet.evaluateCell

/- The value of the cell that a label names. -/
def resolveCell
    (sheet : Sheet)
    (label : String) :
    Run Value :=
  sheet.resolve (.ofLabel label)

/- The values of the cells of an area, row by row. -/
def resolveRange
    (sheet : Sheet)
    (text : String) :
    Run (List Value) :=
  sheet.resolve (.ofArea text)

end Sheet

end Spreadsheet
