import Spreadsheet.Proofs.Evaluation.Total
import Spreadsheet.Proofs.Sheet.Held

/-
  Sheets with areas in place of values.

  In a cell of a sheet, an area that stands for one value can
  be replaced by the call that sums it up.  The cell has the
  same value or fails with the same failure, and the progress
  is the same too, unless the sum is too great.

  Main results:
    * `Spreadsheet.Sheet.outcome_summed`
-/

------------------------------------------------------------
-- Sums Of Areas
------------------------------------------------------------

namespace Spreadsheet

namespace Sheet

/-
  A cell is evaluated alike if an area that stands for one
  value in its formula is summed up, where the sum is not too
  great whenever it is evaluated.
-/
theorem outcome_summed
    (sheet : Sheet)
    (row col : Nat)
    {body other : List Char}
    {place : Expr.Place}
    {written name : String}
    (hBody :
      Expr.ofBody body = .ok (place.fill (.range written)))
    (hOther :
      Expr.ofBody other =
        .ok (place.fill (.call name [.range written])))
    (hScalar : place.IsScalar)
    (hSum :
      Function.named? (Expr.upperName name) = some .sum)
    (progress : Progress)
    (hTotal :
      let summed := sheet.withFormula row col other
      ∀ moment ∈
          place.moment? summed.surroundings
            summed.evaluateCell (progress.enter ⟨row, col⟩),
        ((summed.resolve
          (Expr.call name [.range written]).value).outcome
            moment).1 ≠ .error .wholeTooGreat) :
    ((sheet.withFormula row col other).evaluateCell
        ⟨row, col⟩).outcome progress =
      ((sheet.withFormula row col body).evaluateCell
        ⟨row, col⟩).outcome progress := by
  by_cases hBegins : sheet.Begins ⟨⟨row, col⟩, progress⟩
  · have hInside :=
      Expr.Place.outcome_fill_sum hScalar hSum written hTotal
    rw [sheet.outcome_withFormula row col other other hBegins,
      sheet.outcome_withFormula row col other body hBegins,
      Inquiry.ofBody, Inquiry.ofBody, hBody, hOther, resolve,
      resolve]
    simp only [hInside]
  · exact sheet.outcome_withFormula_of_not_begun row col body
      other hBegins

/- Numbers in all kinds of cells, and a word. -/
def assorted : Sheet where
  grid := [[some "1", some "=RAND()"], [some "x", some "=A1&A1"]]
  settings := ⟨5, 10, true, false, 1⟩
  surroundings :=
    { Surroundings.still with random := fun _ => 0.5 }

/- An area as an argument of a choice, inside a product. -/
def withBareArea : List Char :=
  "2*if(A1,b2:A1,RAND())".toList

/- The sum of the area in its place. -/
def withSummedArea : List Char :=
  "2*if(A1,sum(b2:A1),RAND())".toList

/- Both formulas come to the same. -/
theorem outcome_summed_assorted :
    ∃ place : Expr.Place,
      Expr.ofBody withBareArea =
        .ok (place.fill (.range "b2:A1")) ∧
      Expr.ofBody withSummedArea =
        .ok (place.fill (.call "sum" [.range "b2:A1"])) ∧
      place.IsScalar ∧
      ((assorted.withFormula 2 0 withSummedArea).evaluateCell
          ⟨2, 0⟩).outcome .start =
        ((assorted.withFormula 2 0 withBareArea).evaluateCell
          ⟨2, 0⟩).outcome .start := by
  let place : Expr.Place :=
    .right .mul (.number "2")
      (.argument "if" [.cell "A1"] .whole [.call "RAND" []])
  let summed := assorted.withFormula 2 0 withSummedArea
  have hBody :
      Expr.ofBody withBareArea =
        .ok (place.fill (.range "b2:A1")) := by
    rfl
  have hOther :
      Expr.ofBody withSummedArea =
        .ok (place.fill (.call "sum" [.range "b2:A1"])) := by
    rfl
  have hScalar : place.IsScalar := .inl (by decide +kernel)
  have hSum :
      Function.named? (Expr.upperName "sum") = some .sum := by
    rfl
  have hAll :
      ((place.moment? summed.surroundings summed.evaluateCell
          (Progress.start.enter ⟨2, 0⟩)).all fun moment =>
        ((summed.resolve
          (Expr.call "sum" [.range "b2:A1"]).value).outcome
            moment).1.isOk) = true := by
    decide +kernel
  refine ⟨place, hBody, hOther, hScalar,
    outcome_summed assorted 2 0 hBody hOther hScalar hSum
      .start fun moment hMoment hGreat => ?_⟩
  have hHere := (Option.all_eq_true _ _).mp hAll moment hMoment
  rw [hGreat] at hHere
  cases hHere

end Sheet

end Spreadsheet
