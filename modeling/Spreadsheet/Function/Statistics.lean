import Spreadsheet.Function.Call
import Spreadsheet.Number.Root

/-
  Statistical functions.

  The median is taken of the numbers in order.  The spread is
  computed exactly, as a quotient of integers, and rounded
  once.

  Key definitions include:
    * `Spreadsheet.Number.sort`
    * `Spreadsheet.Number.median`
    * `Spreadsheet.Number.variance?`
    * `Spreadsheet.Number.spread`
    * `Spreadsheet.Number.spreadOf`
    * `Spreadsheet.Call.median`
    * `Spreadsheet.Call.stdev`
-/

------------------------------------------------------------
-- Numbers In Order
------------------------------------------------------------

namespace Spreadsheet

namespace Number

/-
  The rest of numbers that keep descending below a first
  one, and what follows them.
-/
def descending
    (last : Float) :
    List Float → List Float × List Float
  | [] => ([], [])
  | x :: xs =>
      if x < last then
        let (run, rest) := descending x xs
        (x :: run, rest)
      else
        ([], x :: xs)

/-
  The rest of numbers that never descend from a first one,
  and what follows them.
-/
def ascending
    (last : Float) :
    List Float → List Float × List Float
  | [] => ([], [])
  | x :: xs =>
      if x < last then
        ([], x :: xs)
      else
        let (run, rest) := ascending x xs
        (x :: run, rest)

/-
  The numbers that are in order from the start, those in
  descending order turned around, and what follows them.
-/
def firstRun :
    List Float → List Float × List Float
  | [] => ([], [])
  | [x] => ([x], [])
  | x :: y :: xs =>
      if y < x then
        let (run, rest) := descending y xs
        ((x :: y :: run).reverse, rest)
      else
        let (run, rest) := ascending y xs
        (x :: y :: run, rest)

/-
  The place of a number behind all that are not above it,
  found by halving; `fuel` bounds the halvings.
-/
def placeIn
    (sorted : List Float)
    (x : Float) :
    (fuel low high : Nat) → Nat
  | 0, low, _ => low
  | fuel + 1, low, high =>
      if low < high then
        let middle := low + (high - low) / 2
        if x < sorted.getD middle 0.0 then
          placeIn sorted x fuel low middle
        else
          placeIn sorted x fuel (middle + 1) high
      else
        low

/- Put a number into numbers in order. -/
def insertSorted
    (sorted : List Float)
    (x : Float) :
    List Float :=
  let n := sorted.length
  let place := placeIn sorted x n 0 n
  sorted.take place ++ x :: sorted.drop place

/- Numbers in ascending order. -/
def sort
    (xs : List Float) :
    List Float :=
  let (run, rest) := firstRun xs
  rest.foldl insertSorted run

end Number

end Spreadsheet

------------------------------------------------------------
-- Median
------------------------------------------------------------

namespace Spreadsheet

namespace Number

/-
  The middle one of numbers, or the mean of the two middle
  ones; zero if there are none.
-/
def median
    (xs : List Float) :
    Float :=
  let sorted := sort xs
  let n := sorted.length
  if n = 0 then
    0.0
  else if n % 2 = 1 then
    sorted.getD (n / 2) 0.0
  else
    (sorted.getD (n / 2 - 1) 0.0 +
      sorted.getD (n / 2) 0.0) / 2.0

end Number

namespace Call

/- The median of the numbers. -/
def median
    (call : Call) :
    Except Failure Value := do
  return .number (Number.median (← call.numbers))

end Call

end Spreadsheet

------------------------------------------------------------
-- Spread
------------------------------------------------------------

namespace Spreadsheet

namespace Number

/-
  A finite number as an integer in units of the last place of
  the least numbers.
-/
def units?
    (x : Float) :
    Option Int :=
  match Binary.ofFloat x with
  | .finite negative mantissa exponent =>
      let shift := exponent - Binary.leastExponent
      some (Binary.signed negative
        (mantissa * Nat.pow 2 shift.toNat))
  | _ => none

/-
  The variance of integers as a quotient: the sum of the
  squared distances from the mean over one less than their
  number.
-/
def varianceOf
    (ns : List Int) :
    Nat × Nat :=
  let count : Int := ns.length
  let sum := ns.foldl (· + ·) 0
  let squares := (ns.map fun n => n * n).foldl (· + ·) 0
  ((count * squares - sum * sum).toNat,
    (count * (count - 1)).toNat)

/- The variance in squared units of the least numbers. -/
def variance?
    (xs : List Float) :
    Option (Nat × Nat) :=
  (xs.mapM units?).map varianceOf

/- The root of the variance as a quotient of naturals. -/
def spread
    (variance : Nat × Nat) :
    Nat × Nat :=
  let unit := Nat.pow 2 (-Binary.leastExponent).toNat
  rootQuotient variance.1 (variance.2 * (unit * unit))

end Number

namespace Number

/- A spread as a number, unless it is beyond the floats. -/
def roundedSpread
    (spread : Nat × Nat) :
    Except Failure Float :=
  if exceeds spread.1 spread.2 then
    .error .spreadTooGreat
  else
    .ok (nearest false spread.1 spread.2)

/- The spread of numbers, which must be finite. -/
def spreadOf
    (xs : List Float) :
    Except Failure Float :=
  match variance? xs with
  | none => .error .spreadOfInfinity
  | some variance => roundedSpread (spread variance)

end Number

namespace Call

/- The spread of the numbers, of which there must be two. -/
def stdev
    (call : Call) :
    Except Failure Value := do
  let xs ← call.numbers
  if xs.length < 2 then
    throw .stdevOfTooFew
  return .number (← Number.spreadOf xs)

end Call

end Spreadsheet
