/-
  Decimal digits of every script.

  The decimal digits come in blocks of ten consecutive code
  points, from the zero of a script to its nine.

  Key definitions include:
    * `Spreadsheet.Text.digit?`
    * `Spreadsheet.Text.asciiDigit?`
    * `Spreadsheet.Text.positional`
    * `Spreadsheet.Text.decimalValue`
    * `Spreadsheet.Text.decimal`
    * `Spreadsheet.Text.integer`
-/

------------------------------------------------------------
-- Digits Of Every Script
------------------------------------------------------------

namespace Spreadsheet

namespace Text

/- The zero of each script, in the order of code points. -/
def scriptZeros : List Nat :=
  [
    0x30, 0x660, 0x6f0, 0x7c0, 0x966, 0x9e6, 0xa66, 0xae6,
    0xb66, 0xbe6, 0xc66, 0xce6, 0xd66, 0xde6, 0xe50, 0xed0,
    0xf20, 0x1040, 0x1090, 0x17e0, 0x1810, 0x1946, 0x19d0,
    0x1a80, 0x1a90, 0x1b50, 0x1bb0, 0x1c40, 0x1c50, 0xa620,
    0xa8d0, 0xa900, 0xa9d0, 0xa9f0, 0xaa50, 0xabf0, 0xff10,
    0x104a0, 0x10d30, 0x11066, 0x110f0, 0x11136, 0x111d0,
    0x112f0, 0x11450, 0x114d0, 0x11650, 0x116c0, 0x11730,
    0x118e0, 0x11950, 0x11c50, 0x11d50, 0x11da0, 0x16a60,
    0x16ac0, 0x16b50, 0x1d7ce, 0x1d7d8, 0x1d7e2, 0x1d7ec,
    0x1d7f6, 0x1e140, 0x1e2f0, 0x1e950, 0x1fbf0
  ]

/- The value of a decimal digit of any script. -/
def digit?
    (c : Char) :
    Option Nat :=
  scriptZeros.findSome? fun first =>
    if first ≤ c.toNat ∧ c.toNat ≤ first + 9 then
      some (c.toNat - first)
    else
      none

/- A character that is a decimal digit of some script. -/
def isDigit
    (c : Char) :
    Bool :=
  (digit? c).isSome

/- The value of one of the ten digits of ASCII. -/
def asciiDigit?
    (c : Char) :
    Option Nat :=
  if '0'.toNat ≤ c.toNat ∧ c.toNat ≤ '9'.toNat then
    some (c.toNat - '0'.toNat)
  else
    none

/- A character that is one of the ten digits of ASCII. -/
def isAsciiDigit
    (c : Char) :
    Bool :=
  (asciiDigit? c).isSome

end Text

end Spreadsheet

------------------------------------------------------------
-- Positional Notation
------------------------------------------------------------

namespace Spreadsheet

namespace Text

/- The number that digit values denote in a base. -/
def positional
    (base : Nat)
    (digits : List Nat) :
    Nat :=
  digits.foldl (fun n d => n * base + d) 0

/- The number that decimal digits of any script denote. -/
def decimalValue
    (digits : List Char) :
    Nat :=
  positional 10 (digits.filterMap digit?)

/- A number in plain decimal notation. -/
def decimal
    (n : Nat) :
    List Char :=
  Nat.toDigits 10 n

/- An integer in plain decimal notation. -/
def integer :
    Int → List Char
  | .ofNat n => decimal n
  | .negSucc n => '-' :: decimal (n + 1)

end Text

end Spreadsheet

------------------------------------------------------------
-- Long Numerals
------------------------------------------------------------

namespace Spreadsheet

namespace Text

/-
  Whole numbers of more decimal digits are neither read nor
  written.
-/
def longestNumeral : Nat := 4300

/- The message about a whole number of too many digits. -/
def overlongMessage
    (digits : Nat) :
    String :=
  "Exceeds the limit (4300 digits) for integer string " ++
    "conversion: value has " ++
    String.ofList (decimal digits) ++
    " digits; use sys.set_int_max_str_digits() to " ++
    "increase the limit"

/- The message about a whole number that is not written. -/
def unwritableMessage : String :=
  "Exceeds the limit (4300 digits) for integer string " ++
    "conversion; use sys.set_int_max_str_digits() to " ++
    "increase the limit"

end Text

end Spreadsheet
