import Spreadsheet.Formula.Lexeme

/-
  The references of a formula.

  A formula names cells and ranges in its leaves.  They are
  listed in upper case, each once, in the order of their code
  points.

  Key definitions include:
    * `Spreadsheet.Expr.cellNames`
    * `Spreadsheet.Expr.rangeNames`
-/

------------------------------------------------------------
-- Sorted Names
------------------------------------------------------------

namespace Spreadsheet

/- Put a name into sorted names unless it is among them. -/
def insertName
    (name : String) :
    List String → List String
  | [] => [name]
  | first :: rest =>
      if name = first then
        first :: rest
      else if name < first then
        name :: first :: rest
      else
        first :: insertName name rest

/- Names in order, each once. -/
def sortNames
    (names : List String) :
    List String :=
  names.foldr insertName []

end Spreadsheet

------------------------------------------------------------
-- References
------------------------------------------------------------

namespace Spreadsheet

/- What a formula refers to, as it is written. -/
inductive Reference where
  | cell (written : String)
  | range (written : String)
deriving DecidableEq, Repr

namespace Expr

mutual

/- The references of a formula, from left to right. -/
def references :
    Expr → List Reference
  | .number _ => []
  | .string _ => []
  | .word _ => []
  | .boolean _ => []
  | .cell written => [.cell written]
  | .range written => [.range written]
  | .call _ arguments => referencesOf arguments
  | .unary _ operand => operand.references
  | .binary _ left right =>
      left.references ++ right.references
termination_by structural formula => formula

/- The references of formulas, in order. -/
def referencesOf :
    List Expr → List Reference
  | [] => []
  | formula :: rest =>
      formula.references ++ referencesOf rest
termination_by structural formulas => formulas

end

/- A reference in upper case. -/
def upperName
    (written : String) :
    String :=
  Lexeme.upperText written.toList

/- The cells that a formula names, in order. -/
def cellNames
    (formula : Expr) :
    List String :=
  sortNames (formula.references.filterMap fun reference =>
    match reference with
    | .cell written => some (upperName written)
    | .range _ => none)

/- The ranges that a formula names, in order. -/
def rangeNames
    (formula : Expr) :
    List String :=
  sortNames (formula.references.filterMap fun reference =>
    match reference with
    | .cell _ => none
    | .range written => some (upperName written))

end Expr

end Spreadsheet
