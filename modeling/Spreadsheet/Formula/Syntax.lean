import Spreadsheet.Comparison

/-
  Formulas.

  A formula is a tree of operators, calls and leaves.  Leaves
  and names of functions keep the text that was written, so a
  tree can be shown as it was read.

  Key definitions include:
    * `Spreadsheet.BinaryOp`
    * `Spreadsheet.BinaryOp.level`
    * `Spreadsheet.UnaryOp`
    * `Spreadsheet.Expr`
-/

------------------------------------------------------------
-- Operators
------------------------------------------------------------

namespace Spreadsheet

/- Operators between two operands. -/
inductive BinaryOp where
  | compare (comparison : Comparison)
  | concat
  | add
  | sub
  | mul
  | div
  | mod
  | pow
deriving DecidableEq, Repr

/- Operators in front of one operand. -/
inductive UnaryOp where
  | neg
  | pos
deriving DecidableEq, Repr

namespace BinaryOp

/- How an operator is written. -/
def symbol :
    BinaryOp → String
  | compare comparison => comparison.symbol
  | concat => "&"
  | add => "+"
  | sub => "-"
  | mul => "*"
  | div => "/"
  | mod => "%"
  | pow => "^"

/-
  The level of an operator: the operands of one level are the
  operations of the next, and within a level the operators
  group to the left.
-/
def level :
    BinaryOp → Nat
  | compare _ => 1
  | concat => 2
  | add => 3
  | sub => 3
  | mul => 4
  | div => 4
  | mod => 4
  | pow => 5

end BinaryOp

namespace UnaryOp

/- The operator in front that an infix symbol also is. -/
def ofBinary? :
    BinaryOp → Option UnaryOp
  | .add => some pos
  | .sub => some neg
  | _ => none

end UnaryOp

end Spreadsheet

------------------------------------------------------------
-- Trees
------------------------------------------------------------

namespace Spreadsheet

/- A formula as a tree; parentheses leave no node in it. -/
inductive Expr where
  | number (written : String)
  | string (written : String)
  | word (written : String)
  | boolean (written : String)
  | cell (written : String)
  | range (written : String)
  | call (name : String) (arguments : List Expr)
  | unary (op : UnaryOp) (operand : Expr)
  | binary (op : BinaryOp) (left right : Expr)
deriving Repr

end Spreadsheet
