import Spreadsheet.Proofs.Evaluation.Remainder
import Spreadsheet.Proofs.Sheet.Held

/-
  Remainders in cells.

  In a cell the operator and the function that ask for the
  remainder of two operands show the same: the code for a zero
  divisor, the code for what is no number, or the remainder.
  The exception is a dividend that is no number with a divisor
  that masks it, since the two read their operands in another
  order.

  Key definitions include:
    * `Spreadsheet.Sheet.operands`

  Main results:
    * `Spreadsheet.Sheet.mod_eq_remainder`
    * `Spreadsheet.Sheet.mod_ne_remainder_of_word`
-/

------------------------------------------------------------
-- Remainders In A Cell
------------------------------------------------------------

namespace Spreadsheet

namespace Sheet

/- The values of two operands inside a cell that begins. -/
def operands
    (sheet : Sheet)
    (cell : Cell)
    (dividend divisor : Expr)
    (progress : Progress) :
    Except Failure (Value × Value) :=
  ((sheet.resolve
    (Expr.operandValues dividend divisor)).outcome
      (progress.enter cell)).1

/- What is left behind depends on the value only. -/
theorem closed_congr
    (sheet : Sheet)
    (cell : Cell)
    {result other : Except Failure Value}
    (hValue : other.toOption = result.toOption)
    (progress : Progress) :
    sheet.closed cell other progress =
      sheet.closed cell result progress := by
  cases result with
  | ok value =>
      cases other with
      | ok value' => rw [Option.some.inj hValue]
      | error failure => cases hValue
  | error failure =>
      cases other with
      | ok value' => cases hValue
      | error failure' => rfl

/-
  The operator and the function leave the same behind, and
  show the same in a cell, unless the divisor masks that the
  dividend is no number.
-/
theorem mod_eq_remainder
    (sheet : Sheet)
    (row col : Nat)
    {body other : List Char}
    {dividend divisor : Expr}
    {name : String}
    (hBody :
      Expr.ofBody body = .ok (.binary .mod dividend divisor))
    (hOther :
      Expr.ofBody other = .ok (.call name [dividend, divisor]))
    (hName :
      Function.named? (Expr.upperName name) = some .mod)
    (hDividend : ∀ written, dividend ≠ .range written)
    (hDivisor : ∀ written, divisor ≠ .range written)
    (progress : Progress) :
    let operands :=
      (sheet.withFormula row col body).operands ⟨row, col⟩
        dividend divisor progress
    let operated :=
      ((sheet.withFormula row col body).evaluateCell
        ⟨row, col⟩).outcome progress
    let called :=
      ((sheet.withFormula row col other).evaluateCell
        ⟨row, col⟩).outcome progress
    called.2 = operated.2 ∧
      ((∀ first second, operands = .ok (first, second) →
          ¬second.Masks first) →
        called.1.mapError Failure.display =
          operated.1.mapError Failure.display) ∧
      (sheet.Begins ⟨⟨row, col⟩, progress⟩ →
        ∀ first second, operands = .ok (first, second) →
          (called.1.mapError Failure.display =
              operated.1.mapError Failure.display ↔
            ¬second.Masks first) ∧
          (¬second.Masks first →
            Value.RemainderShown first second
              (called.1.mapError Failure.display))) := by
  by_cases hBegins : sheet.Begins ⟨⟨row, col⟩, progress⟩
  · rw [sheet.outcome_withFormula row col body body hBegins,
      sheet.outcome_withFormula row col body other hBegins,
      Inquiry.ofBody, Inquiry.ofBody, hBody, hOther]
    simp only [Expr.value_binary_of_operands,
      Expr.value_mod_of_operands hName hDividend hDivisor,
      operands, resolve, Inquiry.outcome_bind_settled]
    generalize ((Expr.operandValues dividend divisor).run _
      _).outcome _ = found
    rcases found with ⟨failure | ⟨first, second⟩, after⟩
    · refine ⟨rfl, fun _ => rfl, fun _ _ _ hFound => ?_⟩
      cases hFound
    · refine ⟨closed_congr sheet _ Value.toOption_mod after,
        fun hSeen => ?_, fun _ _ _ hFound => ?_⟩
      · exact Value.shown_mod_iff.mpr (hSeen _ _ rfl)
      · cases hFound
        exact ⟨Value.shown_mod_iff, Value.remainderShown_mod⟩
  · rw [sheet.outcome_withFormula_of_not_begun row col body
      other hBegins]
    exact ⟨rfl, fun _ => rfl,
      fun hOpens => absurd hOpens hBegins⟩

/- A number and a numeral between blanks. -/
def measured : Sheet where
  grid := [[some "-7.5", some "=\" 2 \""]]
  settings := ⟨5, 10, false, false, 1⟩
  surroundings := .still

/- Their remainder by the operator. -/
def byOperator : List Char :=
  "(A1)%(B1)".toList

/- Their remainder by the function. -/
def byFunction : List Char :=
  "mod(A1,B1)".toList

/- Both show the same. -/
theorem mod_eq_remainder_measured :
    Expr.ofBody byOperator =
        .ok (.binary .mod (.cell "A1") (.cell "B1")) ∧
      Expr.ofBody byFunction =
        .ok (.call "mod" [.cell "A1", .cell "B1"]) ∧
      (((measured.withFormula 1 0 byFunction).evaluateCell
          ⟨1, 0⟩).outcome .start).1.mapError
            Failure.display =
        (((measured.withFormula 1 0 byOperator).evaluateCell
          ⟨1, 0⟩).outcome .start).1.mapError
            Failure.display := by
  have hBody :
      Expr.ofBody byOperator =
        .ok (.binary .mod (.cell "A1") (.cell "B1")) := by
    rfl
  have hOther :
      Expr.ofBody byFunction =
        .ok (.call "mod" [.cell "A1", .cell "B1"]) := by
    rfl
  have hName :
      Function.named? (Expr.upperName "mod") = some .mod := by
    rfl
  have hNumber :
      (((measured.withFormula 1 0 byOperator).operands
          ⟨(1 : Nat), (0 : Nat)⟩ (.cell "A1") (.cell "B1")
            .start).toOption.all fun pair =>
              pair.1.toNumber.isOk) = true := by
    decide +kernel
  have hNoRange :
      ∀ label written, Expr.cell label ≠ .range written := by
    intro label written hSame
    cases hSame
  have hBoth :=
    mod_eq_remainder measured 1 0 hBody hOther hName
      (hNoRange "A1") (hNoRange "B1") .start
  refine ⟨hBody, hOther, hBoth.2.1 ?_⟩
  rintro first second hFound ⟨failure, hFailure, -⟩
  rw [hFound] at hNumber
  change first.toNumber.isOk = true at hNumber
  rw [hFailure] at hNumber
  cases hNumber

/- The remainder of a word and zero by the operator. -/
def wordByOperator : List Char :=
  "(\"x\")%(0)".toList

/- The remainder of a word and zero by the function. -/
def wordByFunction : List Char :=
  "MOD(\"x\",0)".toList

/-
  Zero masks that a word is no number: only the operator
  shows the code for a zero divisor.
-/
theorem mod_ne_remainder_of_word :
    Expr.ofBody wordByOperator =
        .ok (.binary .mod (.string "\"x\"")
          (.number "0")) ∧
      Expr.ofBody wordByFunction =
        .ok (.call "MOD" [.string "\"x\"", .number "0"]) ∧
      (((measured.withFormula 1 0
          wordByOperator).evaluateCell ⟨1, 0⟩).outcome
            .start).1.mapError Failure.display =
        .error "#DIV/0!" ∧
      (((measured.withFormula 1 0
          wordByFunction).evaluateCell ⟨1, 0⟩).outcome
            .start).1.mapError Failure.display =
        .error "#VALUE!" := by
  refine ⟨by rfl, by rfl, ?_, ?_⟩
  · decide +kernel
  · decide +kernel

end Sheet

end Spreadsheet
