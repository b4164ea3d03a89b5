import Spreadsheet.Number.Binary

/-
  The shortest decimal of a float.

  Among the decimals that read back as a float, the one with
  the fewest digits is chosen, and of several with as few
  digits the nearest; a tie goes to the even last digit.

  Key definitions include:
    * `Spreadsheet.Number.Decimal`
    * `Spreadsheet.Number.ReadBack`
    * `Spreadsheet.Number.shortest`
-/

------------------------------------------------------------
-- Decimals
------------------------------------------------------------

namespace Spreadsheet

namespace Number

/- A whole number of powers of ten. -/
structure Decimal where
  digits : Nat
  exponent : Int
deriving DecidableEq, Repr

namespace Decimal

/- Drop zeros at the end of the digits; `fuel` bounds them. -/
def stripFrom :
    (fuel : Nat) → Decimal → Decimal
  | 0, d => d
  | fuel + 1, d =>
      if d.digits % 10 = 0 ∧ d.digits ≠ 0 then
        stripFrom fuel ⟨d.digits / 10, d.exponent + 1⟩
      else
        d

/- The same decimal without zeros at the end of its digits. -/
def strip
    (d : Decimal) :
    Decimal :=
  stripFrom d.digits.log2 d

end Decimal

end Number

end Spreadsheet

------------------------------------------------------------
-- Numbers That Read Back
------------------------------------------------------------

namespace Spreadsheet

namespace Number

/-
  The decimals that read back as a positive float: those from
  `low` to `high` around `value`, all in units of a power of
  two over `den`, with the ends if the mantissa is even.
-/
structure ReadBack where
  low : Nat
  value : Nat
  high : Nat
  den : Nat
  closed : Bool

namespace ReadBack

/- The interval of the decimals that round to a float. -/
def ofBinary
    (mantissa : Nat)
    (exponent : Int) :
    ReadBack :=
  let unit := Nat.pow 2 exponent.toNat
  let below :=
    if mantissa = Nat.pow 2 52 ∧
        Binary.leastExponent < exponent then
      1
    else
      2
  {
    low := (4 * mantissa - below) * unit
    value := 4 * mantissa * unit
    high := (4 * mantissa + 2) * unit
    den := 4 * Nat.pow 2 (-exponent).toNat
    closed := mantissa % 2 == 0
  }

/- A decimal lies in the interval. -/
def accepts
    (interval : ReadBack)
    (num den : Nat) :
    Bool :=
  let scaledNum := num * interval.den
  let low := interval.low * den
  let high := interval.high * den
  if interval.closed then
    low ≤ scaledNum && scaledNum ≤ high
  else
    low < scaledNum && scaledNum < high

end ReadBack

end Number

end Spreadsheet

------------------------------------------------------------
-- The Shortest Decimal
------------------------------------------------------------

namespace Spreadsheet

namespace Number

/- A whole number of powers of ten, as a quotient. -/
def decimalQuotient
    (digits : Nat)
    (exponent : Int) :
    Nat × Nat :=
  (digits * Nat.pow 10 exponent.toNat,
    Nat.pow 10 (-exponent).toNat)

/-
  The number of digits before the decimal point of a positive
  quotient; negative if zeros follow the point.
-/
def decimalPlace
    (num den : Nat) :
    Int :=
  let guess : Int :=
    (Nat.toDigits 10 num).length -
      ((Nat.toDigits 10 den).length : Int)
  let power := decimalQuotient 1 guess
  if power.1 * den ≤ num * power.2 then
    guess + 1
  else
    guess

/-
  The decimal of the interval with a given last place, out of
  the two neighbours of the value on that grid.
-/
def ReadBack.onGrid?
    (interval : ReadBack)
    (exponent : Int) :
    Option Decimal :=
  let unit := decimalQuotient 1 exponent
  let num := interval.value * unit.2
  let den := interval.den * unit.1
  let below := num / den
  let rest := num % den
  let at? (digits : Nat) : Option Decimal :=
    let q := decimalQuotient digits exponent
    if interval.accepts q.1 q.2 then
      some ⟨digits, exponent⟩
    else
      none
  let nearer := 2 * rest < den
  let tie := 2 * rest == den
  if nearer || (tie && below % 2 == 0) then
    at? below <|> at? (below + 1)
  else
    at? (below + 1) <|> at? below

/-
  The first hit on grids of more and more digits; `fuel`
  bounds the number of grids.
-/
def ReadBack.shortestFrom
    (interval : ReadBack) :
    (fuel : Nat) → (exponent : Int) → Decimal
  | 0, exponent =>
      (interval.onGrid? exponent).getD
        ⟨interval.value / interval.den, 0⟩
  | fuel + 1, exponent =>
      match interval.onGrid? exponent with
      | some d => d
      | none => interval.shortestFrom fuel (exponent - 1)

/- The shortest decimal of a positive float. -/
def shortest
    (mantissa : Nat)
    (exponent : Int) :
    Decimal :=
  let interval := ReadBack.ofBinary mantissa exponent
  let place := decimalPlace interval.value interval.den
  (interval.shortestFrom 16 (place - 1)).strip

end Number

end Spreadsheet
