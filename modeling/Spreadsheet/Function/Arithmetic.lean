import Spreadsheet.Function.Call
import Spreadsheet.Number.Operation

/-
  Arithmetic functions.

  Totals take the numbers among their values from left to
  right.  Rounding goes to a whole multiple of a power of ten
  or of a significance, a half going up.

  Key definitions include:
    * `Spreadsheet.Call.sum`
    * `Spreadsheet.Call.average`
    * `Spreadsheet.Call.minimum`
    * `Spreadsheet.Call.roundWith`
    * `Spreadsheet.Call.logarithm`
-/

------------------------------------------------------------
-- Totals
------------------------------------------------------------

namespace Spreadsheet

namespace Number

/- The mean of numbers of which there is at least one. -/
def mean
    (xs : List Float) :
    Float :=
  Value.total xs / ofInt xs.length

/- The least of numbers; of equal ones the first. -/
def least :
    List Float → Float
  | [] => 0.0
  | x :: xs => xs.foldl (fun m y => if y < m then y else m) x

/- The greatest of numbers; of equal ones the first. -/
def greatest :
    List Float → Float
  | [] => 0.0
  | x :: xs => xs.foldl (fun m y => if y > m then y else m) x

/- The product of numbers, from left to right. -/
def product
    (xs : List Float) :
    Float :=
  xs.foldl (· * ·) 1.0

end Number

namespace Call

/- The sum of the numbers. -/
def sum
    (call : Call) :
    Except Failure Value := do
  return .number (Value.total (← call.numbers))

/- The mean of the numbers, of which there must be one. -/
def average
    (call : Call) :
    Except Failure Value := do
  let xs ← call.numbers
  if xs.isEmpty then
    throw .averageOfNothing
  return .number (Number.mean xs)

/- The least number, zero if there is none. -/
def minimum
    (call : Call) :
    Except Failure Value := do
  return .number (Number.least (← call.numbers))

/- The greatest number, zero if there is none. -/
def maximum
    (call : Call) :
    Except Failure Value := do
  return .number (Number.greatest (← call.numbers))

/- How many numbers there are. -/
def count
    (call : Call) :
    Except Failure Value := do
  return .number (Number.ofInt (← call.numbers).length)

/- How many values there are that are no empty texts. -/
def countA
    (call : Call) :
    Except Failure Value :=
  let filled := call.values.filter fun v => !v.isBlank
  .ok (.number (Number.ofInt filled.length))

/- The product of the numbers. -/
def product
    (call : Call) :
    Except Failure Value := do
  return .number (Number.product (← call.numbers))

end Call

end Spreadsheet

------------------------------------------------------------
-- One And Two Numbers
------------------------------------------------------------

namespace Spreadsheet

namespace Call

/- A number without its sign. -/
def abs
    (call : Call) :
    Except Failure Value := do
  return .number (← call.number 0).abs

/- The square root of a number that is not negative. -/
def sqrt
    (call : Call) :
    Except Failure Value := do
  let x ← call.number 0
  if x < 0.0 then
    throw (.negativeRoot x)
  return .number x.sqrt

/- A power. -/
def power
    (call : Call) :
    Except Failure Value := do
  let x ← call.number 0
  let y ← call.number 1
  return .number (← Number.power x y)

/- The remainder with the sign of the dividend. -/
def mod
    (call : Call) :
    Except Failure Value := do
  let x ← call.number 0
  let y ← call.number 1
  if y == 0.0 then
    throw .modByZero
  return .number (← Number.remainder x y)

/- The greatest whole number that is not above a number. -/
def int
    (call : Call) :
    Except Failure Value := do
  return .number (← Number.floor (← call.number 0))

/- The sign of a number as a number. -/
def sign
    (call : Call) :
    Except Failure Value := do
  let x ← call.number 0
  if x > 0.0 then
    return .number 1.0
  else if x < 0.0 then
    return .number (-1.0)
  else if x == 0.0 then
    return .number 0.0
  else
    return .number x

/- The ratio of a circle to its diameter. -/
def pi : Except Failure Value :=
  .ok (.number 3.141592653589793)

/- An exponential. -/
def exponential
    (call : Call) :
    Except Failure Value := do
  return .number (← Number.exponential (← call.number 0))

/- A natural logarithm. -/
def naturalLogarithm
    (call : Call) :
    Except Failure Value := do
  return .number (← Number.logarithm (← call.number 0))

/- A logarithm; the base is ten if it is left out. -/
def logarithm
    (call : Call) :
    Except Failure Value := do
  let x ← call.number 0
  let base ← call.numberOr 1 (.number 10.0)
  let unit ← Number.logarithm base
  if unit == 0.0 then
    throw .logOfBaseOne
  return .number ((← Number.logarithm x) / unit)

end Call

end Spreadsheet

------------------------------------------------------------
-- Rounding
------------------------------------------------------------

namespace Spreadsheet

namespace Call

/-
  Round a number at a decimal place: the number is scaled,
  its whole part taken and scaled back.
-/
def roundWith
    (whole : Float → Except Failure Float)
    (call : Call) :
    Except Failure Value := do
  let x ← call.number 0
  let places ← call.number 1
  let factor ← Number.power 10.0 places
  let n ← whole (x * factor)
  if factor == 0.0 then
    throw .zeroFactor
  return .number (n / factor)

/- Round at a decimal place, a half going up. -/
def round
    (call : Call) :
    Except Failure Value :=
  call.roundWith fun x => Number.floor (x + 0.5)

/- Round up at a decimal place. -/
def roundUp
    (call : Call) :
    Except Failure Value :=
  call.roundWith Number.ceiling

/- Round down at a decimal place. -/
def roundDown
    (call : Call) :
    Except Failure Value :=
  call.roundWith Number.floor

/-
  Round a number to a multiple of a significance, which is
  one if it is left out and must not be zero.
-/
def multipleWith
    (whole : Float → Except Failure Float)
    (call : Call) :
    Except Failure Value := do
  let x ← call.number 0
  let unit ← call.numberOr 1 (.number 1.0)
  if unit == 0.0 then
    throw (.zeroSignificance call.function)
  return .number ((← whole (x / unit)) * unit)

/- Round up to a multiple. -/
def ceiling
    (call : Call) :
    Except Failure Value :=
  call.multipleWith Number.ceiling

/- Round down to a multiple. -/
def floor
    (call : Call) :
    Except Failure Value :=
  call.multipleWith Number.floor

end Call

end Spreadsheet
