import Spreadsheet.Text.Blank
import Spreadsheet.Text.Case
import Spreadsheet.Text.Digit

/-
  Cell labels and areas.

  Cells have a row and a column, both counted from zero.  A
  label is a column in letters, counted `A`, ..., `Z`, `AA`,
  ..., followed by a row number counted from one.  An area is
  written as two opposite corners around a colon.

  Key definitions include:
    * `Spreadsheet.Cell`
    * `Spreadsheet.columnLetters`
    * `Spreadsheet.columnIndex`
    * `Spreadsheet.Cell.label`
    * `Spreadsheet.Cell.ofLabel`
    * `Spreadsheet.Area`
    * `Spreadsheet.Area.ofText`
    * `Spreadsheet.Area.cells`
-/

------------------------------------------------------------
-- Cells
------------------------------------------------------------

namespace Spreadsheet

/- A position in the plane; no grid reaches below zero. -/
structure Cell where
  row : Int
  col : Int
deriving DecidableEq, Repr

end Spreadsheet

------------------------------------------------------------
-- Columns
------------------------------------------------------------

namespace Spreadsheet

/-
  The letters of the `n`th column, counted from one; `fuel`
  bounds the number of letters.
-/
def lettersFrom :
    (fuel n : Nat) → List Char
  | 0, _ => []
  | fuel + 1, n =>
      if n = 0 then
        []
      else
        lettersFrom fuel ((n - 1) / 26) ++
          [Char.ofNat ('A'.toNat + (n - 1) % 26)]

/- The letters of a column; none for a negative index. -/
def columnLetters
    (col : Int) :
    List Char :=
  let n := (col + 1).toNat
  lettersFrom n n

/- The index of a column in letters. -/
def columnIndex
    (letters : List Char) :
    Int :=
  letters.foldl
    (fun n c => n * 26 + ((c.toNat : Int) - 'A'.toNat + 1))
    0 - 1

end Spreadsheet

------------------------------------------------------------
-- Labels
------------------------------------------------------------

namespace Spreadsheet

/-
  Why a text is no label of a cell: it has not the form of
  one, or its row number is too long to be read.
-/
inductive LabelFault where
  | malformed (label : String)
  | rowTooLong (digits : Nat)
deriving DecidableEq, Repr

/- One of the letters that columns are written in. -/
def isColumnLetter
    (c : Char) :
    Bool :=
  'A'.toNat ≤ c.toNat && c.toNat ≤ 'Z'.toNat

namespace Cell

/- The label of a cell. -/
def label
    (cell : Cell) :
    String :=
  String.ofList
    (columnLetters cell.col ++ Text.integer (cell.row + 1))

/-
  The cell of a label.  Letters may be of either case and
  white space around the label does not count.
-/
def ofLabel
    (label : String) :
    Except LabelFault Cell :=
  let text := Text.upper (Text.trim label.toList)
  let letters := text.takeWhile isColumnLetter
  let digits := text.dropWhile isColumnLetter
  if letters.isEmpty || digits.isEmpty ||
      !digits.all Text.isDigit then
    .error (.malformed label)
  else if Text.longestNumeral < digits.length then
    .error (.rowTooLong digits.length)
  else
    let number := Text.decimalValue digits
    if number = 0 then
      .error (.malformed label)
    else
      .ok ⟨number - 1, columnIndex letters⟩

end Cell

end Spreadsheet

------------------------------------------------------------
-- Areas
------------------------------------------------------------

namespace Spreadsheet

/- A rectangle of cells between two corners. -/
structure Area where
  first : Cell
  last : Cell
deriving DecidableEq, Repr

namespace Area

/- The least area that holds two cells. -/
def between
    (a b : Cell) :
    Area :=
  {
    first := ⟨min a.row b.row, min a.col b.col⟩
    last := ⟨max a.row b.row, max a.col b.col⟩
  }

/- The area between the corners around the first colon. -/
def ofText
    (text : String) :
    Except LabelFault Area :=
  let chars := text.toList
  let start := chars.takeWhile (· ≠ ':')
  match chars.dropWhile (· ≠ ':') with
  | [] => .error (.malformed text)
  | _ :: stop => do
      let a ← Cell.ofLabel (String.ofList start)
      let b ← Cell.ofLabel (String.ofList stop)
      return between a b

/- The integers from one to another, both included. -/
def span
    (first last : Int) :
    List Int :=
  (List.range (last - first + 1).toNat).map
    fun n : Nat => first + n

/- The cells of an area, row by row. -/
def cells
    (area : Area) :
    List Cell :=
  (span area.first.row area.last.row).flatMap fun row =>
    (span area.first.col area.last.col).map fun col =>
      ⟨row, col⟩

end Area

end Spreadsheet
