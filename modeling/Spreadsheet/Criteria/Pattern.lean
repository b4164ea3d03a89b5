import Spreadsheet.Text.Case

/-
  Patterns with wildcards.

  An asterisk stands for any text and a question mark for any
  one character; every other character stands for itself in
  either case.  A pattern is matched from its end, one piece
  after the other: a row holds for every end of the text
  whether the pieces so far match it.

  Key definitions include:
    * `Spreadsheet.Pattern.Piece`
    * `Spreadsheet.Pattern.ofText`
    * `Spreadsheet.Pattern.Piece.extend`
    * `Spreadsheet.Pattern.accepts`
-/

------------------------------------------------------------
-- Patterns
------------------------------------------------------------

namespace Spreadsheet

namespace Pattern

/- A piece of a pattern. -/
inductive Piece where
  | anyText
  | anyChar
  | letter (c : Char)
deriving DecidableEq, Repr

/- The piece that a character of a pattern stands for. -/
def Piece.ofChar
    (c : Char) :
    Piece :=
  if c = '*' then
    .anyText
  else if c = '?' then
    .anyChar
  else
    .letter c

/- The pieces of a pattern. -/
def ofText
    (text : List Char) :
    List Piece :=
  text.map Piece.ofChar

/- A text has a character that stands for others. -/
def hasWildcard
    (text : List Char) :
    Bool :=
  text.contains '*' || text.contains '?'

end Pattern

end Spreadsheet

------------------------------------------------------------
-- Matching
------------------------------------------------------------

namespace Spreadsheet

namespace Pattern

/- The first entry of a row. -/
def firstOf
    (row : List Bool) :
    Bool :=
  row.headD false

/- The row of the empty pattern: it matches the empty end. -/
def emptyRow :
    List Char → List Bool
  | [] => [true]
  | _ :: rest => false :: emptyRow rest

/- The row of a piece in front of the pieces of a row. -/
def Piece.extend
    (piece : Piece) :
    List Char → List Bool → List Bool
  | [], row =>
      match piece with
      | anyText => [firstOf row]
      | _ => [false]
  | c :: text, row =>
      let next := piece.extend text (row.drop 1)
      let here :=
        match piece with
        | anyText => firstOf row || firstOf next
        | anyChar => firstOf (row.drop 1)
        | letter l =>
            Text.sameLetter l c && firstOf (row.drop 1)
      here :: next

/- The row of a pattern. -/
def rowOf
    (text : List Char) :
    List Piece → List Bool
  | [] => emptyRow text
  | piece :: rest => piece.extend text (rowOf text rest)

/- A pattern matches a whole text. -/
def accepts
    (pieces : List Piece)
    (text : List Char) :
    Bool :=
  firstOf (rowOf text pieces)

end Pattern

end Spreadsheet
