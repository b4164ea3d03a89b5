import Spreadsheet.Number.Binary

/-
  Rounding of quotients to floats.

  A quotient of natural numbers is rounded once, to the
  nearest float, and a tie goes to the even one.  Quotients
  that round beyond the greatest float become infinite.

  Key definitions include:
    * `Spreadsheet.Number.roundQuotient`
    * `Spreadsheet.Number.binaryScale`
    * `Spreadsheet.Number.nearest`
    * `Spreadsheet.Number.ofInt`
    * `Spreadsheet.Number.ofDecimal`
-/

------------------------------------------------------------
-- Quotients
------------------------------------------------------------

namespace Spreadsheet

namespace Number

/- The natural number nearest to a quotient, ties to even. -/
def roundQuotient
    (num den : Nat) :
    Nat :=
  let q := num / den
  let r := num % den
  if 2 * r < den then
    q
  else if den < 2 * r then
    q + 1
  else
    q + q % 2

/- A natural number times a power of two, as a quotient. -/
def scaled
    (num den : Nat)
    (exponent : Int) :
    Nat × Nat :=
  if 0 ≤ exponent then
    (num * Nat.pow 2 exponent.toNat, den)
  else
    (num, den * Nat.pow 2 (-exponent).toNat)

/- The greatest power of two that is not above a quotient. -/
def binaryScale
    (num den : Nat) :
    Int :=
  let guess : Int := (Nat.log2 num : Int) - Nat.log2 den
  let q := scaled num den (-guess)
  if q.1 < q.2 then guess - 1 else guess

end Number

end Spreadsheet

------------------------------------------------------------
-- The Nearest Float
------------------------------------------------------------

namespace Spreadsheet

namespace Number

/- The bits of infinity. -/
def infinityBits : Nat := 2047 * Nat.pow 2 52

/- The bits of the float nearest to a positive quotient. -/
def nearestBits
    (num den : Nat) :
    Nat :=
  let exponent :=
    max (binaryScale num den - 52) Binary.leastExponent
  let q := scaled num den (-exponent)
  let mantissa := roundQuotient q.1 q.2
  let field := (exponent - Binary.leastExponent).toNat
  min (field * Nat.pow 2 52 + mantissa) infinityBits

/- The float nearest to a quotient, with a sign. -/
def nearest
    (negative : Bool)
    (num den : Nat) :
    Float :=
  let sign := if negative then Nat.pow 2 63 else 0
  let bits := if num = 0 then 0 else nearestBits num den
  Float.ofBits (sign + bits).toUInt64

/- The float nearest to an integer. -/
def ofInt
    (n : Int) :
    Float :=
  nearest (n < 0) n.natAbs 1

/- The value of a mantissa at an exponent, with a sign. -/
def ofBinary
    (negative : Bool)
    (mantissa : Nat)
    (exponent : Int) :
    Float :=
  let q := scaled mantissa 1 exponent
  nearest negative q.1 q.2

/- A quotient is too great for a float. -/
def exceeds
    (num den : Nat) :
    Bool :=
  num != 0 && nearestBits num den == infinityBits

end Number

end Spreadsheet

------------------------------------------------------------
-- Decimals
------------------------------------------------------------

namespace Spreadsheet

namespace Number

/- The number of decimal digits of a natural number. -/
def digitCount
    (n : Nat) :
    Nat :=
  (Nat.toDigits 10 n).length

/- Decimals from `10 ^ 310` on are infinite. -/
def greatestScale : Int := 310

/- Decimals below `10 ^ (-330)` are zero. -/
def leastScale : Int := -330

/-
  The float nearest to a whole number of powers of ten.  The
  powers far outside the range of floats are not formed.
-/
def ofDecimal
    (negative : Bool)
    (digits : Nat)
    (exponent : Int) :
    Float :=
  let scale := exponent + digitCount digits
  if digits = 0 ∨ scale < leastScale then
    nearest negative 0 1
  else if greatestScale < scale then
    Float.ofBits
      ((if negative then Nat.pow 2 63 else 0) +
        infinityBits).toUInt64
  else if 0 ≤ exponent then
    nearest negative (digits * Nat.pow 10 exponent.toNat) 1
  else
    nearest negative digits (Nat.pow 10 (-exponent).toNat)

end Number

end Spreadsheet
