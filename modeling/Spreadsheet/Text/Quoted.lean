import Spreadsheet.Text.Printable

/-
  Data in messages.

  A text is shown between single quotes, or between double
  quotes if it holds a single quote and no double one.  The
  quote, the backslash and the characters that would not show
  are escaped.  Truth values are words and the parts of a list
  stand between commas.

  Key definitions include:
    * `Spreadsheet.Text.quoteMark`
    * `Spreadsheet.Text.escaped`
    * `Spreadsheet.Text.quoted`
    * `Spreadsheet.Text.commaSeparated`
-/

------------------------------------------------------------
-- Quoted Text
------------------------------------------------------------

namespace Spreadsheet

namespace Text

/- The lower-case hexadecimal digits of a number. -/
def hexDigits
    (width n : Nat) :
    List Char :=
  let digits := Nat.toDigits 16 n
  List.replicate (width - digits.length) '0' ++ digits

/- The quote that a text is shown in. -/
def quoteMark
    (text : List Char) :
    Char :=
  if text.contains '\'' && !text.contains '"' then
    '"'
  else
    '\''

/-
  A character as it is shown inside a quoted text: the
  characters that do not show are given by their code point,
  in as many digits as it needs out of two, four and eight.
-/
def escaped
    (mark c : Char) :
    List Char :=
  if c = mark || c = '\\' then
    ['\\', c]
  else if c = '\n' then
    ['\\', 'n']
  else if c = '\r' then
    ['\\', 'r']
  else if c = '\t' then
    ['\\', 't']
  else if isPrintable c then
    [c]
  else if c.toNat < 0x100 then
    '\\' :: 'x' :: hexDigits 2 c.toNat
  else if c.toNat < 0x10000 then
    '\\' :: 'u' :: hexDigits 4 c.toNat
  else
    '\\' :: 'U' :: hexDigits 8 c.toNat

/- A text in quotes, as a message shows it. -/
def quoted
    (text : List Char) :
    List Char :=
  let mark := quoteMark text
  mark :: text.flatMap (escaped mark) ++ [mark]

end Text

end Spreadsheet

------------------------------------------------------------
-- Words And Lists
------------------------------------------------------------

namespace Spreadsheet

namespace Text

/- The word for a truth value. -/
def truthWord
    (b : Bool) :
    List Char :=
  if b then "True".toList else "False".toList

/- The parts of a text with commas between them. -/
def commaSeparated :
    List (List Char) → List Char
  | [] => []
  | [part] => part
  | part :: rest => part ++ ',' :: ' ' :: commaSeparated rest

end Text

end Spreadsheet
