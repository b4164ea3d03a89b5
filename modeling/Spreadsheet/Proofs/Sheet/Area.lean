import Spreadsheet.Proofs.Evaluation.Area
import Spreadsheet.Proofs.Sheet.Spelling

/-
  Sheets with listed cells.

  In a cell of a sheet, a formula with an area as an argument
  of a function that takes the values of areas one by one can
  be replaced by the formula that lists the cells of the area.
  The sheet is evaluated alike: each cell has the same value
  or fails with the same failure, and the progress is the same
  too, with the values that are kept and the random numbers
  that are drawn.

  Main results:
    * `Spreadsheet.Sheet.outcome_listed`
-/

------------------------------------------------------------
-- Listed Cells
------------------------------------------------------------

namespace Spreadsheet

namespace Sheet

/-
  A sheet is evaluated alike if a formula in it lists the
  cells of an area.
-/
theorem outcome_listed
    (sheet : Sheet)
    (row col : Nat)
    {body other : List Char}
    {formula listed : Expr}
    (hBody : Expr.ofBody body = .ok formula)
    (hOther : Expr.ofBody other = .ok listed)
    (hLists : formula.ListsCells listed)
    (cell : Cell)
    (progress : Progress) :
    ((sheet.withFormula row col other).evaluateCell
        cell).outcome progress =
      ((sheet.withFormula row col body).evaluateCell
        cell).outcome progress := by
  have hInquiry :
      Inquiry.ofBody other = Inquiry.ofBody body := by
    rw [Inquiry.ofBody, Inquiry.ofBody, hBody, hOther]
    exact hLists.value_eq
  rw [sheet.evaluateCell_withFormula row col hInquiry]

/- Two rows of two cells, one of which fails. -/
def quartered : Sheet where
  grid := [[some "1", some "=RAND()"], [some "=NA()", some "x"]]
  settings := ⟨5, 10, true, false, 1⟩
  surroundings :=
    { Surroundings.still with random := fun _ => 0.5 }

/- An area between other arguments, inside another formula. -/
def withArea : List Char :=
  "-IFERROR(2,sum(RAND(),b2:A1,C1))".toList

/- The cells of the area between the other arguments. -/
def withCells : List Char :=
  "-IFERROR(2,sum(RAND(),A1,B1,A2,B2,C1))".toList

/- Both formulas are evaluated alike. -/
theorem outcome_listed_quartered :
    ∃ formula listed,
      Expr.ofBody withArea = .ok formula ∧
      Expr.ofBody withCells = .ok listed ∧
      formula.ListsCells listed ∧
      ((quartered.withFormula 2 0 withCells).evaluateCell
          ⟨2, 0⟩).outcome .start =
        ((quartered.withFormula 2 0 withArea).evaluateCell
          ⟨2, 0⟩).outcome .start := by
  have hBody :
      Expr.ofBody withArea =
        .ok (.unary .neg (.call "IFERROR" [.number "2",
          .call "sum" [.call "RAND" [], .range "b2:A1",
            .cell "C1"]])) := by
    rfl
  have hOther :
      Expr.ofBody withCells =
        .ok (.unary .neg (.call "IFERROR" [.number "2",
          .call "sum" [.call "RAND" [], .cell "A1",
            .cell "B1", .cell "A2", .cell "B2",
            .cell "C1"]])) := by
    rfl
  have hArea :
      Area.ofText (Expr.upperName "b2:A1") =
        .ok ⟨⟨0, 0⟩, ⟨1, 1⟩⟩ := by
    rfl
  have hName :
      Function.named? (Expr.upperName "sum") = some .sum := by
    rfl
  have hSum :=
    Expr.ListsCells.area hName rfl hArea [.call "RAND" []]
      [.cell "C1"]
  have hLists :=
    Expr.ListsCells.operand .neg
      (.argument "IFERROR" [.number "2"] hSum [])
  exact ⟨_, _, hBody, hOther, hLists,
    outcome_listed quartered 2 0 hBody hOther hLists ⟨2, 0⟩
      .start⟩

end Sheet

end Spreadsheet
