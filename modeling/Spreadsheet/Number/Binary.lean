/-
  Exact reading of floating-point numbers.

  A finite number is a signed natural mantissa times a power
  of two.  Rounding to whole numbers and remainders are
  computed on this reading, without any further rounding.

  Key definitions include:
    * `Spreadsheet.Number.Binary`
    * `Spreadsheet.Number.Binary.ofFloat`
    * `Spreadsheet.Number.Binary.floor?`
    * `Spreadsheet.Number.Binary.ceiling?`
    * `Spreadsheet.Number.Binary.truncate?`
    * `Spreadsheet.Number.Binary.isWhole`
-/

------------------------------------------------------------
-- The Exact Value
------------------------------------------------------------

namespace Spreadsheet

namespace Number

/- What the 64 bits of a number stand for. -/
inductive Binary where
  | nan
  | infinite (negative : Bool)
  | finite
      (negative : Bool)
      (mantissa : Nat)
      (exponent : Int)
deriving DecidableEq, Repr

namespace Binary

/- The exponent of the last place of the least numbers. -/
def leastExponent : Int := -1074

/- Split 64 bits into sign, exponent and fraction. -/
def ofBits
    (bits : Nat) :
    Binary :=
  let negative := bits / Nat.pow 2 63 % 2 == 1
  let field : Nat := bits / Nat.pow 2 52 % Nat.pow 2 11
  let fraction : Nat := bits % Nat.pow 2 52
  if field = 2047 then
    if fraction = 0 then .infinite negative else .nan
  else if field = 0 then
    .finite negative fraction leastExponent
  else
    .finite negative (Nat.pow 2 52 + fraction)
      (leastExponent + ((field : Int) - 1))

/- The exact value of a number. -/
def ofFloat
    (x : Float) :
    Binary :=
  ofBits x.toBits.toNat

/- An integer with a sign and a magnitude. -/
def signed
    (negative : Bool)
    (magnitude : Nat) :
    Int :=
  if negative then -magnitude else magnitude

end Binary

end Number

end Spreadsheet

------------------------------------------------------------
-- Whole Numbers
------------------------------------------------------------

namespace Spreadsheet

namespace Number

namespace Binary

/- The greatest integer that is not above a number. -/
def floor? :
    Binary → Option Int
  | nan => none
  | infinite _ => none
  | finite negative mantissa exponent =>
      let m := signed negative mantissa
      if 0 ≤ exponent then
        some (m * (Nat.pow 2 exponent.toNat : Nat))
      else
        some (m / (Nat.pow 2 (-exponent).toNat : Nat))

/- The number with the opposite sign. -/
def negate :
    Binary → Binary
  | nan => nan
  | infinite negative => infinite (!negative)
  | finite negative mantissa exponent =>
      finite (!negative) mantissa exponent

/- The least integer that is not below a number. -/
def ceiling?
    (value : Binary) :
    Option Int :=
  value.negate.floor?.map (- ·)

/- The integer next to a number on the side of zero. -/
def truncate?
    (value : Binary) :
    Option Int :=
  match value with
  | finite true _ _ => value.ceiling?
  | _ => value.floor?

/- A finite number without a fractional part. -/
def isWhole :
    Binary → Bool
  | nan => false
  | infinite _ => false
  | finite _ mantissa exponent =>
      0 ≤ exponent ||
        mantissa % Nat.pow 2 (-exponent).toNat == 0

/- A number that is neither infinite nor undefined. -/
def isFinite :
    Binary → Bool
  | finite _ _ _ => true
  | _ => false

end Binary

end Number

end Spreadsheet

------------------------------------------------------------
-- Whole Parts Of Floats
------------------------------------------------------------

namespace Spreadsheet

namespace Number

/- The greatest integer that is not above a float. -/
def floor?
    (x : Float) :
    Option Int :=
  (Binary.ofFloat x).floor?

/- The least integer that is not below a float. -/
def ceiling?
    (x : Float) :
    Option Int :=
  (Binary.ofFloat x).ceiling?

/- The integer next to a float on the side of zero. -/
def truncate?
    (x : Float) :
    Option Int :=
  (Binary.ofFloat x).truncate?

/- A finite float without a fractional part. -/
def isWhole
    (x : Float) :
    Bool :=
  (Binary.ofFloat x).isWhole

/- A float that is neither infinite nor undefined. -/
def isFinite
    (x : Float) :
    Bool :=
  (Binary.ofFloat x).isFinite

/- A float that is undefined. -/
def isNaN
    (x : Float) :
    Bool :=
  Binary.ofFloat x == .nan

end Number

end Spreadsheet
