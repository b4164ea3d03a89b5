import Spreadsheet.Number.Shortest
import Spreadsheet.Text.Digit

/-
  Layouts of numbers as text.

  Both layouts print the shortest decimal.  They differ in
  the range of numbers that are written without an exponent,
  in the mark of whole numbers and in the shape of the
  exponent.  Cells use `Layout.cell`, messages use
  `Layout.message`.  Whole numbers that are not too great are
  written into cells as they are, without a search for their
  shortest decimal.

  Key definitions include:
    * `Spreadsheet.Number.Layout`
    * `Spreadsheet.Number.Layout.cell`
    * `Spreadsheet.Number.Layout.message`
    * `Spreadsheet.Number.Layout.write`
    * `Spreadsheet.Number.Binary.exactWhole?`
    * `Spreadsheet.Number.toText`
    * `Spreadsheet.Number.toMessage`
-/

------------------------------------------------------------
-- Layouts
------------------------------------------------------------

namespace Spreadsheet

namespace Number

/-
  The decisions of a layout.  The place of a decimal is the
  number of its digits before the point.
-/
structure Layout where
  firstPlace : Int
  lastPlace : Int
  wholeMark : List Char
  exponentWidth : Nat
  signedZero : Bool
  nan : List Char
  infinity : List Char

namespace Layout

/-
  Cells write up to 21 digits before the point and up to
  five zeros behind it without an exponent.
-/
def cell : Layout :=
  {
    firstPlace := -5
    lastPlace := 21
    wholeMark := []
    exponentWidth := 1
    signedZero := false
    nan := "NaN".toList
    infinity := "Infinity".toList
  }

/-
  Messages write up to 16 digits before the point and up to
  three zeros behind it without an exponent, mark whole
  numbers as such and give the exponent two digits.
-/
def message : Layout :=
  {
    firstPlace := -3
    lastPlace := 16
    wholeMark := ['.', '0']
    exponentWidth := 2
    signedZero := true
    nan := "nan".toList
    infinity := "inf".toList
  }

/- The exponent behind a mantissa. -/
def writeExponent
    (layout : Layout)
    (e : Int) :
    List Char :=
  let digits := Nat.toDigits 10 e.natAbs
  let zeros :=
    List.replicate (layout.exponentWidth - digits.length) '0'
  'e' :: (if e < 0 then '-' else '+') :: (zeros ++ digits)

/- A positive decimal whose digits do not end in zero. -/
def writeDecimal
    (layout : Layout)
    (d : Decimal) :
    List Char :=
  let digits := Nat.toDigits 10 d.digits
  let place : Int := d.exponent + digits.length
  if place < layout.firstPlace ∨ layout.lastPlace < place then
    match digits with
    | [] => []
    | [c] => c :: layout.writeExponent (place - 1)
    | c :: rest =>
        c :: '.' :: rest ++ layout.writeExponent (place - 1)
  else if 0 ≤ d.exponent then
    digits ++ List.replicate d.exponent.toNat '0' ++
      layout.wholeMark
  else if 0 < place then
    digits.take place.toNat ++
      '.' :: digits.drop place.toNat
  else
    '0' :: '.' ::
      List.replicate (-place).toNat '0' ++ digits

/- A sign in front of a magnitude. -/
def withSign
    (negative : Bool)
    (magnitude : List Char) :
    List Char :=
  if negative then '-' :: magnitude else magnitude

/- A number in a layout. -/
def write
    (layout : Layout)
    (value : Binary) :
    List Char :=
  match value with
  | .nan => layout.nan
  | .infinite negative => withSign negative layout.infinity
  | .finite negative mantissa exponent =>
      if mantissa = 0 then
        withSign (negative && layout.signedZero)
          ('0' :: layout.wholeMark)
      else
        withSign negative
          (layout.writeDecimal (shortest mantissa exponent))

end Layout

end Number

end Spreadsheet

------------------------------------------------------------
-- Numbers As Text
------------------------------------------------------------

namespace Spreadsheet

namespace Number

/- Whole numbers below this one are all numbers of their own. -/
def exactLimit : Nat := Nat.pow 2 53

/- A whole number below the limit, as an integer. -/
def Binary.exactWhole?
    (value : Binary) :
    Option Int :=
  if value.isWhole then
    value.truncate?.filter fun n => n.natAbs < exactLimit
  else
    none

/- A number as the text of a cell. -/
def toText
    (x : Float) :
    List Char :=
  let value := Binary.ofFloat x
  match value.exactWhole? with
  | some n => Text.integer n
  | none => Layout.cell.write value

/- A number inside a message. -/
def toMessage
    (x : Float) :
    List Char :=
  Layout.message.write (Binary.ofFloat x)

end Number

end Spreadsheet
