import Spreadsheet.Failure
import Spreadsheet.Number.Nearest

/-
  Operations on numbers that are not defined everywhere.

  Each operation returns a number or fails with its operands
  and the obstacle.  Whole parts and remainders are exact;
  powers, exponentials and logarithms are those of the
  machine, with the infinite and undefined operands settled
  beforehand.

  Key definitions include:
    * `Spreadsheet.Number.floor`
    * `Spreadsheet.Number.ceiling`
    * `Spreadsheet.Number.remainder`
    * `Spreadsheet.Number.power`
    * `Spreadsheet.Number.exponential`
    * `Spreadsheet.Number.logarithm`
-/

------------------------------------------------------------
-- Constants And Signs
------------------------------------------------------------

namespace Spreadsheet

namespace Number

/- Positive infinity. -/
def infinity : Float := 1.0 / 0.0

/- A number that is infinite with either sign. -/
def isInfinite
    (x : Float) :
    Bool :=
  match Binary.ofFloat x with
  | .infinite _ => true
  | _ => false

/- A number with a minus sign, zero included. -/
def isNegative
    (x : Float) :
    Bool :=
  match Binary.ofFloat x with
  | .nan => false
  | .infinite negative => negative
  | .finite negative _ _ => negative

/- A whole number that two does not divide. -/
def isOdd
    (x : Float) :
    Bool :=
  isWhole x && (truncate? x).any fun n => n % 2 != 0

end Number

end Spreadsheet

------------------------------------------------------------
-- Whole Parts
------------------------------------------------------------

namespace Spreadsheet

namespace Number

/- The obstacle to a whole part of a number that has none. -/
def wholeObstacle
    (x : Float) :
    Obstacle :=
  if isNaN x then .undefined else .infinite

/- The greatest whole number that is not above a number. -/
def floor
    (x : Float) :
    Except Failure Float :=
  match floor? x with
  | some n => .ok (ofInt n)
  | none => .error (.undefined .floor [x] (wholeObstacle x))

/- The least whole number that is not below a number. -/
def ceiling
    (x : Float) :
    Except Failure Float :=
  match ceiling? x with
  | some n => .ok (ofInt n)
  | none => .error (.undefined .ceil [x] (wholeObstacle x))

end Number

end Spreadsheet

------------------------------------------------------------
-- Remainders
------------------------------------------------------------

namespace Spreadsheet

namespace Number

/-
  The remainder of two finite numbers, the divisor not zero,
  in the least of their exponents.
-/
def remainderOf
    (negative : Bool)
    (m : Nat) (e : Int)
    (n : Nat) (f : Int) :
    Float :=
  let least := min e f
  let num := m * Nat.pow 2 (e - least).toNat
  let den := n * Nat.pow 2 (f - least).toNat
  ofBinary negative (num % den) least

/- The remainder with the sign of the dividend. -/
def remainder
    (x y : Float) :
    Except Failure Float :=
  match Binary.ofFloat x, Binary.ofFloat y with
  | .nan, _ => .ok x
  | _, .nan => .ok y
  | .infinite _, _ => .error (.undefined .fmod [x, y] .domain)
  | .finite _ _ _, .infinite _ => .ok x
  | .finite negative m e, .finite _ n f =>
      if n = 0 then
        .error (.undefined .fmod [x, y] .domain)
      else
        .ok (remainderOf negative m e n f)

end Number

end Spreadsheet

------------------------------------------------------------
-- Powers
------------------------------------------------------------

namespace Spreadsheet

namespace Number

/- The power of an infinite base to a number. -/
def powerOfInfinite
    (x y : Float) :
    Float :=
  if y > 0.0 then
    if isOdd y then x else infinity
  else if y == 0.0 then
    1.0
  else if isOdd y && isNegative x then
    -0.0
  else
    0.0

/- The power of a finite base to an infinite number. -/
def powerToInfinite
    (x y : Float) :
    Float :=
  let size := x.abs
  if size == 1.0 then
    1.0
  else if y > 0.0 && size > 1.0 then
    infinity
  else if y < 0.0 && size < 1.0 then
    infinity
  else
    0.0

/- The power of finite numbers. -/
def powerOfFinite
    (x y : Float) :
    Except Failure Float :=
  let z := Float.pow x y
  if isNaN z then
    .error (.undefined .pow [x, y] .domain)
  else if isInfinite z then
    if x == 0.0 then
      .error (.undefined .pow [x, y] .domain)
    else
      .error (.undefined .pow [x, y] .range)
  else
    .ok z

/- The power of a base to an exponent. -/
def power
    (x y : Float) :
    Except Failure Float :=
  if isNaN x then
    .ok (if y == 0.0 then 1.0 else x)
  else if isNaN y then
    .ok (if x == 1.0 then 1.0 else y)
  else if isInfinite x then
    .ok (powerOfInfinite x y)
  else if isInfinite y then
    .ok (powerToInfinite x y)
  else
    powerOfFinite x y

/- The power of the base of natural logarithms. -/
def exponential
    (x : Float) :
    Except Failure Float :=
  let z := Float.exp x
  if isFinite x && isInfinite z then
    .error (.undefined .exp [x] .range)
  else
    .ok z

/- The natural logarithm of a positive number. -/
def logarithm
    (x : Float) :
    Except Failure Float :=
  if isNaN x then
    .ok x
  else if x > 0.0 then
    .ok (if isInfinite x then x else Float.log x)
  else
    .error (.undefined .log [x] .domain)

end Number

end Spreadsheet
