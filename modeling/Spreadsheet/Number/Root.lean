import Spreadsheet.Number.Nearest

/-
  Square roots of quotients.

  The root of a quotient is rounded once, to the nearest
  float, with a tie to the even one: the integer root of the
  quotient is taken far beyond the last place of a float, and
  its last bit is set if anything remains.

  Key definitions include:
    * `Spreadsheet.Number.floorRoot`
    * `Spreadsheet.Number.oddRoot`
    * `Spreadsheet.Number.rootQuotient`
-/

------------------------------------------------------------
-- Integer Roots
------------------------------------------------------------

namespace Spreadsheet

namespace Number

/-
  The greatest number below `root + 2 ^ bits` whose square is
  not above `n`, if the square of `root` is not above `n`.
-/
def floorRootFrom
    (n : Nat) :
    (bits root : Nat) → Nat
  | 0, root => root
  | bits + 1, root =>
      let next := root + Nat.pow 2 bits
      if next * next ≤ n then
        floorRootFrom n bits next
      else
        floorRootFrom n bits root

/- The greatest number whose square is not above `n`. -/
def floorRoot
    (n : Nat) :
    Nat :=
  floorRootFrom n (n.log2 / 2 + 1) 0

/-
  The root of a quotient, rounded down, with an odd last bit
  if it is not exact.
-/
def oddRoot
    (num den : Nat) :
    Nat :=
  let root := floorRoot (num / den)
  if root * root * den = num then
    root
  else
    root ||| 1

end Number

end Spreadsheet

------------------------------------------------------------
-- Roots Of Quotients
------------------------------------------------------------

namespace Spreadsheet

namespace Number

/- The number of binary digits of a natural number. -/
def bitLength
    (n : Nat) :
    Nat :=
  if n = 0 then 0 else n.log2 + 1

/- The root of a quotient as a quotient with 54 or more bits. -/
def rootQuotient
    (num den : Nat) :
    Nat × Nat :=
  let shift : Int :=
    ((bitLength num : Int) - bitLength den - 109) / 2
  if 0 ≤ shift then
    let s := shift.toNat
    (oddRoot num (den * Nat.pow 2 (2 * s)) * Nat.pow 2 s, 1)
  else
    let s := (-shift).toNat
    (oddRoot (num * Nat.pow 2 (2 * s)) den, Nat.pow 2 s)

end Number

end Spreadsheet
