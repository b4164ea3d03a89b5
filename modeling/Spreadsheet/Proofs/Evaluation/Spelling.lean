import Spreadsheet.Proofs.Evaluation.Formula
import Spreadsheet.Proofs.Formula.Spelling

/-
  Values and spelling.

  References are put in upper case before they are resolved,
  truth words before they are told apart, and the names of
  functions before they are looked up.  A name that is none
  stays in upper case in the failure.  So a formula asks the
  same questions in the same order in any spelling, and comes
  to the same result.

  Main results:
    * `Spreadsheet.Expr.performNamed_standardName`
    * `Spreadsheet.Expr.value_standard`
-/

------------------------------------------------------------
-- Calls
------------------------------------------------------------

namespace Spreadsheet

namespace Expr

/- A function is the same under its standard name. -/
theorem performNamed_standardName
    (name : String)
    (arguments : List Argument) :
    Call.performNamed (upperName (standardName name))
        arguments =
      Call.performNamed (upperName name) arguments := by
  cases hNamed : Function.named? (upperName name) with
  | some function =>
      have hStandard := (named?_standardName name).trans hNamed
      simp only [Call.performNamed, hNamed, hStandard]
  | none =>
      -- What names no function has the same capitals.
      have hStandard :
          upperName (standardName name) = upperName name := by
        simp only [standardName, hNamed, upperName_capitals]
      rw [hStandard]

end Expr

end Spreadsheet

------------------------------------------------------------
-- Formulas
------------------------------------------------------------

namespace Spreadsheet

namespace Expr

theorem areaValues_capitals
    (written : String) :
    areaValues (capitals written) = areaValues written := by
  rw [areaValues, areaValues, upperName_capitals]

theorem booleanValue_capitals
    (written : String) :
    booleanValue (capitals written) = booleanValue written := by
  have hUpper :
      Lexeme.upperText (capitals written).toList =
        Lexeme.upperText written.toList :=
    upperName_capitals written
  rw [booleanValue, booleanValue, Lexeme.isTrueWord, hUpper]
  rfl

variable {arguments : List Expr}

theorem argumentValue_standard
    {argument : Expr}
    (hValue : argument.standard.value = argument.value) :
    argument.standard.argumentValue =
      argument.argumentValue := by
  cases argument with
  | range written =>
      simp only [standard, argumentValue, areaValues_capitals]
  | _ =>
      simp only [standard] at hValue
      simp only [standard, argumentValue, hValue]

theorem argumentValues_standard
    (hValues : ∀ argument ∈ arguments,
      argument.standard.value = argument.value) :
    argumentValues (standardAll arguments) =
      argumentValues arguments := by
  induction arguments with
  | nil => rfl
  | cons argument rest ih =>
      rw [List.forall_mem_cons] at hValues
      rw [standardAll, argumentValues_cons,
        argumentValues_cons, ih hValues.2,
        argumentValue_standard hValues.1]

theorem attemptValue_standard
    (hValues : ∀ argument ∈ arguments,
      argument.standard.value = argument.value) :
    attemptValue (standardAll arguments) =
      attemptValue arguments := by
  rcases arguments with _ | ⟨tried, _ | ⟨fallback, _ | _⟩⟩
  · rfl
  · simp only [standardAll, attemptValue,
      hValues tried (by simp)]
  · simp only [standardAll, attemptValue,
      hValues tried (by simp), hValues fallback (by simp)]
  · rfl

mutual

/- The value of a formula is that of its standard spelling. -/
theorem value_standard :
    ∀ (formula : Expr),
      formula.standard.value = formula.value
  | .number _ => rfl
  | .string _ => rfl
  | .word _ => rfl
  | .boolean written => by
      rw [standard, value, value, booleanValue_capitals]
  | .cell written => by
      rw [standard, value, value, cellValue, cellValue,
        upperName_capitals]
  | .range written => by
      rw [standard, value, value, areaValues_capitals]
  | .unary op operand => by
      rw [standard, value, value, value_standard operand]
  | .binary op left right => by
      rw [standard, value, value, value_standard left,
        value_standard right]
  | .call name arguments => by
      have hValues := values_standard arguments
      rw [standard, value, value]
      simp only [named?_standardName,
        attemptValue_standard hValues,
        argumentValues_standard hValues,
        performNamed_standardName]

/- So it is with each of several formulas. -/
theorem values_standard :
    ∀ (formulas : List Expr), ∀ formula ∈ formulas,
      formula.standard.value = formula.value
  | [] => by simp
  | first :: rest => by
      have hFirst := value_standard first
      have hRest := values_standard rest
      intro formula hFormula
      rcases List.mem_cons.mp hFormula with rfl | hFormula
      · exact hFirst
      · exact hRest formula hFormula

end

end Expr

end Spreadsheet
