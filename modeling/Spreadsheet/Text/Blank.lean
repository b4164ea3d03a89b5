/-
  White space and line ends.

  Trimming removes white space of every script, the four
  information separators and the next-line control.  Lines
  end at every mandatory break, and a carriage return with
  its line feed is one break.

  Key definitions include:
    * `Spreadsheet.Text.isBlank`
    * `Spreadsheet.Text.trim`
    * `Spreadsheet.Text.isLineEnd`
    * `Spreadsheet.Text.lines`
-/

------------------------------------------------------------
-- White Space
------------------------------------------------------------

namespace Spreadsheet

namespace Text

/- White space, in the order of code points. -/
def blanks : List Nat :=
  [
    0x9, 0xa, 0xb, 0xc, 0xd, 0x1c, 0x1d, 0x1e, 0x1f, 0x20,
    0x85, 0xa0, 0x1680, 0x2000, 0x2001, 0x2002, 0x2003,
    0x2004, 0x2005, 0x2006, 0x2007, 0x2008, 0x2009, 0x200a,
    0x2028, 0x2029, 0x202f, 0x205f, 0x3000
  ]

/- A white-space character. -/
def isBlank
    (c : Char) :
    Bool :=
  blanks.contains c.toNat

/- A text without the white space at its end. -/
def trimRight
    (text : List Char) :
    List Char :=
  (text.reverse.dropWhile isBlank).reverse

/- A text without the white space at both its ends. -/
def trim
    (text : List Char) :
    List Char :=
  trimRight (text.dropWhile isBlank)

end Text

end Spreadsheet

------------------------------------------------------------
-- Lines
------------------------------------------------------------

namespace Spreadsheet

namespace Text

/- Characters that end a line, in the order of code points. -/
def lineEnds : List Nat :=
  [
    0xa, 0xb, 0xc, 0xd, 0x1c, 0x1d, 0x1e, 0x85, 0x2028,
    0x2029
  ]

/- A character that ends a line. -/
def isLineEnd
    (c : Char) :
    Bool :=
  lineEnds.contains c.toNat

/-
  The lines of a text, given the characters of the current
  line in reverse.  A last line without an end counts if it
  holds a character.
-/
def linesFrom
    (current : List Char) :
    List Char → List (List Char)
  | [] =>
      if current.isEmpty then [] else [current.reverse]
  | '\r' :: '\n' :: rest =>
      current.reverse :: linesFrom [] rest
  | c :: rest =>
      if isLineEnd c then
        current.reverse :: linesFrom [] rest
      else
        linesFrom (c :: current) rest

/- The lines of a text, without the characters that end them. -/
def lines
    (text : List Char) :
    List (List Char) :=
  linesFrom [] text

end Text

end Spreadsheet
