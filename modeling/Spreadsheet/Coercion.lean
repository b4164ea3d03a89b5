import Spreadsheet.Failure
import Spreadsheet.Number.Numeral

/-
  Values as numbers and as text.

  A text counts as a number if it is a numeral between white
  space, and white space alone counts as zero.  Totals skip
  empty texts and texts that are no numbers.  The values of
  an area count as one value only if there is one of them.

  Key definitions include:
    * `Spreadsheet.Value.toNumber?`
    * `Spreadsheet.Value.toNumber`
    * `Spreadsheet.Value.toText`
    * `Spreadsheet.Value.numbers`
    * `Spreadsheet.Argument.single`
    * `Spreadsheet.Datum.toNumber`
    * `Spreadsheet.Datum.toText`
-/

------------------------------------------------------------
-- Numbers And Texts
------------------------------------------------------------

namespace Spreadsheet

namespace Value

/-
  The number that a text stands for, none if it stands for no
  number.  It fails if the text is a whole number beyond the
  floats.
-/
def numberOfText
    (s : String) :
    Except Failure (Option Float) :=
  let text := Text.trim s.toList
  if text.isEmpty then
    .ok (some 0.0)
  else
    match Number.numeral text with
    | .none => .ok none
    | .value x => .ok (some x)
    | .tooGreat => .error .wholeTooGreat

/- The number that a value stands for, if any. -/
def toNumber? :
    Value → Except Failure (Option Float)
  | number x => .ok (some x)
  | text s => numberOfText s

/- The number that a value stands for. -/
def toNumber
    (value : Value) :
    Except Failure Float := do
  match ← value.toNumber? with
  | some x => return x
  | none => throw (.notANumber (.scalar value))

/- The text of a value. -/
def toText :
    Value → String
  | number x => String.ofList (Number.toText x)
  | text s => s

/- A value is true when its number is not zero. -/
def isTrue
    (value : Value) :
    Except Failure Bool :=
  value.toNumber.map fun x => x != 0.0

/- The value of a cell that holds a text as it is written. -/
def ofLiteral
    (s : String) :
    Except Failure Value := do
  if s.isEmpty then
    return text s
  else
    match ← numberOfText s with
    | some x => return number x
    | none => return text s

end Value

end Spreadsheet

------------------------------------------------------------
-- Numbers Among Values
------------------------------------------------------------

namespace Spreadsheet

namespace Value

/-
  The number of a value among several ones: empty texts and
  texts that are no numbers have none.
-/
def contribution
    (value : Value) :
    Except Failure (Option Float) :=
  if value.isBlank then .ok none else value.toNumber?

/- The numbers among values. -/
def numbers :
    List Value → Except Failure (List Float)
  | [] => .ok []
  | value :: rest => do
      let x ← value.contribution
      let xs ← numbers rest
      return x.toList ++ xs

/- The sum of numbers, from left to right. -/
def total
    (xs : List Float) :
    Float :=
  xs.foldl (· + ·) 0.0

/- The sum of the numbers among values. -/
def totalOf
    (values : List Value) :
    Except Failure Float :=
  (numbers values).map total

end Value

end Spreadsheet

------------------------------------------------------------
-- Arguments
------------------------------------------------------------

namespace Spreadsheet

namespace Argument

/- The one value of an argument. -/
def single :
    Argument → Except Failure Value
  | scalar value => .ok value
  | area [value] => .ok value
  | area _ => .error .severalValues

/- The values of an argument, those of an area one by one. -/
def values :
    Argument → List Value
  | scalar value => [value]
  | area values => values

/- The values of arguments, in order. -/
def flatten
    (arguments : List Argument) :
    List Value :=
  arguments.flatMap values

/- The number of an argument with one value. -/
def toNumber
    (argument : Argument) :
    Except Failure Float := do
  (← argument.single).toNumber

/- The text of an argument with one value. -/
def toText
    (argument : Argument) :
    Except Failure String :=
  argument.single.map Value.toText

end Argument

end Spreadsheet

------------------------------------------------------------
-- Data From Outside
------------------------------------------------------------

namespace Spreadsheet

namespace Datum

/- The number that data stand for, if any. -/
def toNumber? :
    Datum → Except Failure (Option Float)
  | missing => .ok (some 0.0)
  | truth b => .ok (some (if b then 1.0 else 0.0))
  | scalar value => value.toNumber?
  | list _ => .ok none

/- The only item of a list. -/
def onlyItem :
    Datum → Except Failure Datum
  | list [item] => .ok item
  | list _ => .error .severalValues
  | datum => .ok datum

/- The number that data stand for. -/
def toNumber
    (datum : Datum) :
    Except Failure Float := do
  let item ← datum.onlyItem
  match ← item.toNumber? with
  | some x => return x
  | none => throw (.notANumber item)

/- Data that are one value; missing data are an empty text. -/
def single :
    Datum → Except Failure Datum
  | missing => .ok (.scalar .empty)
  | datum => datum.onlyItem

/- The text of one value. -/
def word :
    Datum → String
  | scalar value => value.toText
  | datum => String.ofList datum.shown

/- The text that data stand for. -/
def toText
    (datum : Datum) :
    Except Failure String :=
  datum.single.map word

/- Data that count as no value. -/
def isBlank :
    Datum → Bool
  | missing => true
  | scalar value => value.isBlank
  | _ => false

/- The numbers among data. -/
def numbers :
    List Datum → Except Failure (List Float)
  | [] => .ok []
  | datum :: rest => do
      let x ←
        if datum.isBlank then pure none else datum.toNumber?
      let xs ← numbers rest
      return x.toList ++ xs

end Datum

end Spreadsheet
