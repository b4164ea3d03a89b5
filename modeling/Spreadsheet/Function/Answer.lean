import Spreadsheet.Function.Arithmetic
import Spreadsheet.Function.Conditional
import Spreadsheet.Function.Dates
import Spreadsheet.Function.Logic
import Spreadsheet.Function.Statistics
import Spreadsheet.Function.Words

/-
  The answers to calls.

  Most calls are settled by their arguments.  The others are
  settled by a random number, by the time that it is or by
  what the memory has place for, and nothing is drawn or
  looked up for a call that fails before.  A text that is
  longer than lengths can tell is not delivered.

  Key definitions include:
    * `Spreadsheet.Answer`
    * `Spreadsheet.Call.repeatText`
    * `Spreadsheet.Call.check`
    * `Spreadsheet.Call.answer`
    * `Spreadsheet.Call.delivered`
-/

------------------------------------------------------------
-- Answers
------------------------------------------------------------

namespace Spreadsheet

/- A result, or what it will be once something is known. -/
inductive Answer where
  | settled (result : Except Failure Value)
  | drawing (result : Float → Except Failure Value)
  | dating (result : Moment → Except Failure Value)
  | fitting
      (length : Nat)
      (result : Bool → Except Failure Value)

end Spreadsheet

------------------------------------------------------------
-- Random Numbers
------------------------------------------------------------

namespace Spreadsheet

namespace Number

/-
  The whole number between two numbers that a random number
  below one picks.
-/
def pick
    (low high random : Float) :
    Except Failure Float := do
  return (← floor (random * (high - low + 1.0))) + low

end Number

namespace Call

/- The numbers between which a random number is wanted. -/
def bounds
    (call : Call) :
    Except Failure (Float × Float) := do
  let low ← call.number 0
  let high ← call.number 1
  return (low, high)

/- A random whole number between two numbers. -/
def randomBetween
    (call : Call) :
    Answer :=
  match call.bounds with
  | .ok (low, high) =>
      .drawing fun random =>
        (Number.pick low high random).map Value.number
  | .error failure => .settled (.error failure)

end Call

end Spreadsheet

------------------------------------------------------------
-- Repetition
------------------------------------------------------------

namespace Spreadsheet

namespace Call

/-
  A text and how often it is wanted, if a length can tell how
  long that is.
-/
def repetition
    (call : Call) :
    Except Failure (List Char × Nat) := do
  let text ← call.chars 0
  let count ← call.size 1 .empty
  if lengthLimit ≤ count then
    throw .countTooGreat
  if lengthLimit ≤ text.length * count then
    throw .textTooLong
  return (text, count)

/-
  A text several times over.  It takes memory unless the text
  is empty or wanted once at most.
-/
def repeatText
    (call : Call) :
    Answer :=
  match call.repetition with
  | .ok (text, count) =>
      if text.isEmpty then
        .settled (.ok .empty)
      else if count ≤ 1 then
        .settled (.ok (.ofChars (Text.repeated text count)))
      else
        .fitting (text.length * count) fun fits =>
          if fits then
            .ok (.ofChars (Text.repeated text count))
          else
            .error .noMemory
  | .error failure => .settled (.error failure)

end Call

end Spreadsheet

------------------------------------------------------------
-- Calls And Their Answers
------------------------------------------------------------

namespace Spreadsheet

namespace Call

/- A call fails first of all if it has too many arguments. -/
def check
    (call : Call) :
    Except Failure Unit :=
  checkLimit call.function call.arguments.length

/- The first argument, which did not fail. -/
def unfailed
    (call : Call) :
    Except Failure Value :=
  (call.argument 0 .empty).total

/- The answer to a call without too many arguments. -/
def answerOf
    (call : Call) :
    Answer :=
  match call.function with
  | .abs => .settled call.abs
  | .and => .settled call.conjunction
  | .average => .settled call.average
  | .averageIf => .settled call.averageIf
  | .ceiling => .settled call.ceiling
  | .concatenate => .settled call.concatenate
  | .count => .settled call.count
  | .countA => .settled call.countA
  | .countIf => .settled call.countIf
  | .day => .settled (call.datePart Date.day)
  | .exp => .settled call.exponential
  | .find => .settled call.find
  | .floor => .settled call.floor
  | .ifElse => .settled call.ifElse
  | .ifError => .settled call.unfailed
  | .int => .settled call.int
  | .left => .settled call.left
  | .len => .settled call.len
  | .ln => .settled call.naturalLogarithm
  | .log => .settled call.logarithm
  | .lower => .settled call.lower
  | .max => .settled call.maximum
  | .median => .settled call.median
  | .mid => .settled call.mid
  | .min => .settled call.minimum
  | .mod => .settled call.mod
  | .month => .settled (call.datePart Date.month)
  | .not => .settled call.negation
  | .now => .dating fun now => .ok (.text now.toText)
  | .or => .settled call.disjunction
  | .pi => .settled pi
  | .power => .settled call.power
  | .product => .settled call.product
  | .rand => .drawing fun random => .ok (.number random)
  | .randBetween => call.randomBetween
  | .rept => call.repeatText
  | .right => .settled call.right
  | .round => .settled call.round
  | .roundDown => .settled call.roundDown
  | .roundUp => .settled call.roundUp
  | .search => .settled call.search
  | .sign => .settled call.sign
  | .sqrt => .settled call.sqrt
  | .stdev => .settled call.stdev
  | .substitute => .settled call.substitute
  | .sum => .settled call.sum
  | .sumIf => .settled call.sumIf
  | .text => .settled call.text
  | .today =>
      .dating fun now => .ok (.text now.date.toText)
  | .trim => .settled call.trim
  | .upper => .settled call.upper
  | .value => .settled call.value
  | .vlookup => .settled (.error .shapelessLookup)
  | .year => .settled (call.datePart Date.year)

/- The answer to a call. -/
def answer
    (call : Call) :
    Answer :=
  match call.check with
  | .ok () => call.answerOf
  | .error failure => .settled (.error failure)

end Call

end Spreadsheet

------------------------------------------------------------
-- Delivery
------------------------------------------------------------

namespace Spreadsheet

namespace Call

/-
  What is wrong with the text that a call makes, if it is
  longer than lengths can tell.
-/
def overlong?
    (call : Call) :
    Option Failure :=
  match call.function with
  | .concatenate =>
      if lengthLimit ≤ call.joinedLength then
        some .joinedTooLong
      else
        none
  | .substitute =>
      match call.replacing with
      | .ok (text, old, new) =>
          if Text.outgrows old new text then
            some .replacedTooLong
          else
            none
      | .error _ => none
  | _ => none

/-
  The answer to a call as it is delivered: not if it is a text
  that is too long.
-/
def delivered
    (call : Call) :
    Answer :=
  match call.check, call.overlong? with
  | .ok (), some failure => .settled (.error failure)
  | _, _ => call.answer

end Call

end Spreadsheet
