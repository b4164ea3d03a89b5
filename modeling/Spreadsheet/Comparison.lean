/-
  Comparisons of numbers.

  Key definitions include:
    * `Spreadsheet.Comparison`
    * `Spreadsheet.Comparison.symbol`
    * `Spreadsheet.Comparison.holds`
-/

------------------------------------------------------------
-- Comparisons
------------------------------------------------------------

namespace Spreadsheet

/- Comparisons of two operands. -/
inductive Comparison where
  | eq
  | ne
  | lt
  | gt
  | le
  | ge
deriving DecidableEq, Repr

namespace Comparison

/- How a comparison is written. -/
def symbol :
    Comparison → String
  | eq => "="
  | ne => "<>"
  | lt => "<"
  | gt => ">"
  | le => "<="
  | ge => ">="

/- Whether a comparison holds between two numbers. -/
def holds
    (comparison : Comparison)
    (a b : Float) :
    Bool :=
  match comparison with
  | eq => a == b
  | ne => a != b
  | lt => a < b
  | gt => a > b
  | le => a ≤ b
  | ge => a ≥ b

end Comparison

end Spreadsheet
