import Spreadsheet.Coercion
import Spreadsheet.Formula.Syntax
import Spreadsheet.Number.Operation

/-
  Operators applied to values.

  Two values are equal if their numbers are, or, unless both
  have one, if their texts are.  All other operators but the
  one that joins texts work on numbers.  A division looks at
  its divisor first.  A text that is longer than lengths can
  tell is not delivered.

  Key definitions include:
    * `Spreadsheet.Value.sameAs`
    * `Spreadsheet.UnaryOp.apply`
    * `Spreadsheet.BinaryOp.apply`
    * `Spreadsheet.BinaryOp.deliver`
-/

------------------------------------------------------------
-- Equality
------------------------------------------------------------

namespace Spreadsheet

namespace Value

/- Two values are equal as numbers or else as texts. -/
def sameAs
    (a b : Value) :
    Except Failure Bool := do
  let x? ← a.toNumber?
  let y? ← b.toNumber?
  match x?, y? with
  | some x, some y => return x == y
  | _, _ => return a.toText == b.toText

end Value

end Spreadsheet

------------------------------------------------------------
-- Operators
------------------------------------------------------------

namespace Spreadsheet

namespace UnaryOp

/- An operator in front of a number. -/
def apply
    (op : UnaryOp)
    (value : Value) :
    Except Failure Value := do
  let x ← value.toNumber
  match op with
  | neg => return .number (-x)
  | pos => return .number x

end UnaryOp

namespace Value

/- Apply an operation to the numbers of two values. -/
def onNumbers
    (operation : Float → Float → Except Failure Value)
    (a b : Value) :
    Except Failure Value := do
  let x ← a.toNumber
  let y ← b.toNumber
  operation x y

/-
  Apply an operation to the numbers of two values of which
  the second must not be zero; that is found out before the
  first is read.
-/
def onDivisor
    (zero : Failure)
    (operation : Float → Float → Except Failure Float)
    (a b : Value) :
    Except Failure Value := do
  let y ← b.toNumber
  if y == 0.0 then
    throw zero
  let x ← a.toNumber
  return .number (← operation x y)

/- Whether a comparison holds between two values. -/
def compare
    (comparison : Comparison)
    (a b : Value) :
    Except Failure Value :=
  match comparison with
  | .eq => (a.sameAs b).map Value.ofBool
  | .ne => (a.sameAs b).map fun same => Value.ofBool !same
  | _ =>
      onNumbers
        (fun x y => .ok (.ofBool (comparison.holds x y))) a b

end Value

namespace BinaryOp

/- An operator between two values. -/
def apply
    (op : BinaryOp)
    (a b : Value) :
    Except Failure Value :=
  match op with
  | compare comparison => Value.compare comparison a b
  | concat => .ok (.text (a.toText ++ b.toText))
  | add => a.onNumbers (fun x y => .ok (.number (x + y))) b
  | sub => a.onNumbers (fun x y => .ok (.number (x - y))) b
  | mul => a.onNumbers (fun x y => .ok (.number (x * y))) b
  | div =>
      Value.onDivisor .divisionByZero
        (fun x y => .ok (x / y)) a b
  | mod =>
      Value.onDivisor .remainderByZero Number.remainder a b
  | pow =>
      a.onNumbers
        (fun x y => (Number.power x y).map Value.number) b

/-
  What an operator between two values comes to as it is
  delivered: not if it is a text that is too long.
-/
def deliver
    (op : BinaryOp)
    (a b : Value) :
    Except Failure Value :=
  match op with
  | concat =>
      if lengthLimit ≤ a.toText.length + b.toText.length then
        .error .joinedTooLong
      else
        op.apply a b
  | _ => op.apply a b

end BinaryOp

end Spreadsheet
