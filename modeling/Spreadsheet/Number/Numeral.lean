import Spreadsheet.Number.Nearest
import Spreadsheet.Text.Digit

/-
  Numbers written as text.

  A numeral is a decimal with an optional fraction and
  exponent, an infinity, or a whole number in base 16, 8 or
  2.  Decimals take the digits of any script and may have a
  sign; whole numbers in another base have none.

  Key definitions include:
    * `Spreadsheet.Number.Numeral`
    * `Spreadsheet.Number.decimal?`
    * `Spreadsheet.Number.radix?`
    * `Spreadsheet.Number.numeral`
    * `Spreadsheet.Number.leadingDecimal?`
-/

------------------------------------------------------------
-- Decimals
------------------------------------------------------------

namespace Spreadsheet

namespace Number

/- Split a sign off a text: whether it is a minus. -/
def splitSign :
    List Char → Bool × List Char
  | '+' :: rest => (false, rest)
  | '-' :: rest => (true, rest)
  | text => (false, text)

/- The exponent at the end of a decimal, none if it is junk. -/
def exponent? :
    List Char → Option Int
  | [] => some 0
  | c :: rest =>
      let signed := splitSign rest
      if (c = 'e' || c = 'E') && !signed.2.isEmpty &&
          signed.2.all Text.isDigit then
        some (Binary.signed signed.1
          (Text.decimalValue signed.2))
      else
        none

/-
  The digits before and after an optional decimal point, and
  the text behind them.
-/
def splitDecimal
    (text : List Char) :
    List Char × List Char × List Char :=
  let whole := text.takeWhile Text.isDigit
  match text.dropWhile Text.isDigit with
  | '.' :: rest =>
      (whole, rest.takeWhile Text.isDigit,
        rest.dropWhile Text.isDigit)
  | rest => (whole, [], rest)

/- The value of digits before and after a decimal point. -/
def decimalOf
    (negative : Bool)
    (whole fraction : List Char)
    (exponent : Int) :
    Float :=
  ofDecimal negative (Text.decimalValue (whole ++ fraction))
    (exponent - fraction.length)

/- The value of a decimal with an optional sign. -/
def decimal?
    (text : List Char) :
    Option Float :=
  let signed := splitSign text
  let (whole, fraction, rest) := splitDecimal signed.2
  if whole.isEmpty && fraction.isEmpty then
    none
  else
    (exponent? rest).map
      (decimalOf signed.1 whole fraction)

/-
  The value of the longest decimal without a sign and an
  exponent that a text begins with.
-/
def leadingDecimal?
    (text : List Char) :
    Option Float :=
  let (whole, fraction, _) := splitDecimal text
  if whole.isEmpty && fraction.isEmpty then
    none
  else
    some (decimalOf false whole fraction 0)

end Number

end Spreadsheet

------------------------------------------------------------
-- Other Numerals
------------------------------------------------------------

namespace Spreadsheet

namespace Number

/- Infinity with an optional sign. -/
def infinity?
    (text : List Char) :
    Option Float :=
  let signed := splitSign text
  if signed.2 = "Infinity".toList then
    some (if signed.1 then -(1.0 / 0.0) else 1.0 / 0.0)
  else
    none

/- The value of a digit of base 16 or less. -/
def hexDigit?
    (c : Char) :
    Option Nat :=
  let n := c.toNat
  if '0'.toNat ≤ n ∧ n ≤ '9'.toNat then
    some (n - '0'.toNat)
  else if 'a'.toNat ≤ n ∧ n ≤ 'f'.toNat then
    some (n - 'a'.toNat + 10)
  else if 'A'.toNat ≤ n ∧ n ≤ 'F'.toNat then
    some (n - 'A'.toNat + 10)
  else
    none

/- The base that a mark behind a zero stands for. -/
def base?
    (mark : Char) :
    Option Nat :=
  if mark = 'x' || mark = 'X' then
    some 16
  else if mark = 'o' || mark = 'O' then
    some 8
  else if mark = 'b' || mark = 'B' then
    some 2
  else
    none

/- The number that digits denote in a base up to 16. -/
def digitsInBase?
    (base : Nat)
    (text : List Char) :
    Option Nat :=
  if text.isEmpty then
    none
  else
    (text.mapM fun c =>
      (hexDigit? c).filter (· < base)).map
      (Text.positional base)

/- A whole number in base 16, 8 or 2. -/
def radix? :
    List Char → Option Nat
  | '0' :: mark :: text =>
      (base? mark).bind (digitsInBase? · text)
  | _ => none

end Number

end Spreadsheet

------------------------------------------------------------
-- Numerals
------------------------------------------------------------

namespace Spreadsheet

namespace Number

/-
  What a text denotes as a number.  A whole number in base
  16, 8 or 2 may be too great for a float.
-/
inductive Numeral where
  | none
  | value (x : Float)
  | tooGreat

/- The number that a text without outer white space denotes. -/
def numeral
    (text : List Char) :
    Numeral :=
  match decimal? text with
  | some x => .value x
  | none =>
      match infinity? text with
      | some x => .value x
      | none =>
          match radix? text with
          | some n =>
              if exceeds n 1 then
                .tooGreat
              else
                .value (nearest false n 1)
          | none => .none

end Number

end Spreadsheet
