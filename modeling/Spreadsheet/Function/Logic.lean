import Spreadsheet.Function.Call

/-
  Logical functions.

  A value is true when its number is not zero.  Conjunction
  and disjunction stop at the first value that decides them,
  and a choice between two values reads an area as its total.

  Key definitions include:
    * `Spreadsheet.Argument.total`
    * `Spreadsheet.Call.ifElse`
    * `Spreadsheet.Call.conjunction`
    * `Spreadsheet.Call.disjunction`
-/

------------------------------------------------------------
-- Choices
------------------------------------------------------------

namespace Spreadsheet

/- An argument as one value, an area as its total. -/
def Argument.total :
    Argument → Except Failure Value
  | .scalar value => .ok value
  | .area values => (Value.totalOf values).map Value.number

namespace Call

/-
  The second argument if the first one is true, or else the
  third; one or zero if it is left out.
-/
def ifElse
    (call : Call) :
    Except Failure Value := do
  let condition ← (call.argument 0 .empty).total
  if ← condition.isTrue then
    (call.argument 1 (.ofBool true)).total
  else
    (call.argument 2 (.ofBool false)).total

end Call

end Spreadsheet

------------------------------------------------------------
-- Truth Values
------------------------------------------------------------

namespace Spreadsheet

namespace Value

/- All values are true; values after a false one are not read. -/
def allTrue :
    List Value → Except Failure Bool
  | [] => .ok true
  | value :: rest => do
      if ← value.isTrue then allTrue rest else return false

/- Some value is true; values after it are not read. -/
def someTrue :
    List Value → Except Failure Bool
  | [] => .ok false
  | value :: rest => do
      if ← value.isTrue then return true else someTrue rest

end Value

namespace Call

/- Whether all values are true. -/
def conjunction
    (call : Call) :
    Except Failure Value :=
  (Value.allTrue call.values).map Value.ofBool

/- Whether some value is true. -/
def disjunction
    (call : Call) :
    Except Failure Value :=
  (Value.someTrue call.values).map Value.ofBool

/- Whether a value is not true. -/
def negation
    (call : Call) :
    Except Failure Value := do
  let x ← call.number 0
  return .ofBool (x == 0.0)

end Call

end Spreadsheet
