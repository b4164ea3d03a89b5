import Spreadsheet.Evaluation.Inquiry
import Spreadsheet.Evaluation.Operators
import Spreadsheet.Formula.References

/-
  The values of formulas.

  Operands and arguments are evaluated from left to right
  before an operator or a function is applied.  The exception
  is `IFERROR`, which evaluates its fallback only if its first
  argument fails.  An area stands for its values as an
  argument and for their total elsewhere.

  Key definitions include:
    * `Spreadsheet.Expr.value`
    * `Spreadsheet.Expr.attemptValue`
    * `Spreadsheet.Expr.argumentValues`
-/

------------------------------------------------------------
-- Leaves
------------------------------------------------------------

namespace Spreadsheet

namespace Expr

/- The value of a number as it is written. -/
def numberValue
    (written : String) :
    Except Failure Value :=
  match Number.leadingDecimal? written.toList with
  | some x => .ok (.number x)
  | none => .error (.malformedNumber written)

/- The value of a string as it is written. -/
def stringValue
    (written : String) :
    Value :=
  .text (String.ofList (Lexeme.unquote written.toList))

/- The value of a truth word as it is written. -/
def booleanValue
    (written : String) :
    Value :=
  .ofBool (Lexeme.isTrueWord written.toList)

/- The value of the cell of a label in a formula. -/
def cellValue
    (written : String) :
    Inquiry Value :=
  .ofLabel (upperName written)

/- The values of the cells of an area in a formula. -/
def areaValues
    (written : String) :
    Inquiry (List Value) :=
  .ofArea (upperName written)

end Expr

end Spreadsheet

------------------------------------------------------------
-- Formulas
------------------------------------------------------------

namespace Spreadsheet

namespace Call

/-
  The call of a function with arguments; some functions take
  the values of areas one by one.
-/
def ofArguments
    (function : Function)
    (arguments : List Argument) :
    Call :=
  if function.isFlat then
    ⟨function, (Argument.flatten arguments).map .scalar⟩
  else
    ⟨function, arguments⟩

/- Call a function by its name, if there is one. -/
def performNamed
    (name : String)
    (arguments : List Argument) :
    Inquiry Value :=
  match Function.named? name with
  | some function =>
      .ofAnswer (ofArguments function arguments).delivered
  | none => .settled (.error (.unknownFunction name))

end Call

namespace Expr

mutual

/- The value of a formula over the values of cells. -/
def value :
    Expr → Inquiry Value
  | number written => .settled (numberValue written)
  | string written => pure (stringValue written)
  | word written => pure (.text written)
  | boolean written => pure (booleanValue written)
  | cell written => cellValue written
  | range written => do
      let values ← areaValues written
      let total ← .settled (Value.totalOf values)
      return .number total
  | unary op operand => do
      let operand ← value operand
      .settled (op.apply operand)
  | binary op left right => do
      let left ← value left
      let right ← value right
      .settled (op.deliver left right)
  | call name arguments =>
      let name := upperName name
      if Function.named? name = some .ifError then
        attemptValue arguments
      else do
        let arguments ← argumentValues arguments
        Call.performNamed name arguments
termination_by structural formula => formula

/- The value of the first argument or else of the second. -/
def attemptValue :
    List Expr → Inquiry Value
  | [] => pure .empty
  | [tried] => (value tried).orElse (pure .empty)
  | [tried, fallback] =>
      (value tried).orElse (value fallback)
  | _ => .settled (.error (.tooManyArguments .ifError 2))
termination_by structural arguments => arguments

/- The values of arguments. -/
def argumentValues :
    List Expr → Inquiry (List Argument)
  | [] => pure []
  | range written :: rest => do
      let values ← areaValues written
      let rest ← argumentValues rest
      return .area values :: rest
  | argument :: rest => do
      let value ← value argument
      let rest ← argumentValues rest
      return .scalar value :: rest
termination_by structural arguments => arguments

end

end Expr

end Spreadsheet
