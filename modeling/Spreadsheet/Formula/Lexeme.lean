import Spreadsheet.Formula.Syntax
import Spreadsheet.Number.Numeral
import Spreadsheet.Text.Case

/-
  Lexemes of formulas.

  A lexeme is a piece of a formula with its kind and its
  place.  Names are written in ASCII letters and digits, the
  low line and the dollar sign.  A token is a lexeme read for
  its value.

  Key definitions include:
    * `Spreadsheet.Lexeme`
    * `Spreadsheet.Lexeme.Kind`
    * `Spreadsheet.Token`
    * `Spreadsheet.Lexeme.token`
-/

------------------------------------------------------------
-- Lexemes
------------------------------------------------------------

namespace Spreadsheet

namespace Lexeme

/- The kinds of lexemes. -/
inductive Kind where
  | boolean
  | range
  | function
  | cell
  | word
  | string
  | number
  | operator (op : BinaryOp)
  | openParen
  | closeParen
  | comma
deriving DecidableEq, Repr

end Lexeme

/- A piece of a formula; `start` is the offset of its text. -/
structure Lexeme where
  kind : Lexeme.Kind
  written : List Char
  start : Nat
deriving DecidableEq, Repr

end Spreadsheet

------------------------------------------------------------
-- Characters Of Names
------------------------------------------------------------

namespace Spreadsheet

namespace Lexeme

/- A letter of ASCII. -/
def isLetter
    (c : Char) :
    Bool :=
  ('A'.toNat ≤ c.toNat && c.toNat ≤ 'Z'.toNat) ||
    ('a'.toNat ≤ c.toNat && c.toNat ≤ 'z'.toNat)

/- A letter or digit of ASCII. -/
def isLetterOrDigit
    (c : Char) :
    Bool :=
  isLetter c || Text.isAsciiDigit c

/- A character that a name may start with. -/
def isNameStart
    (c : Char) :
    Bool :=
  isLetter c || c = '_' || c = '$'

/- A character that a name may go on with. -/
def isNamePart
    (c : Char) :
    Bool :=
  isNameStart c || Text.isAsciiDigit c

/- A character that the name of a function may go on with. -/
def isFunctionPart
    (c : Char) :
    Bool :=
  isNamePart c || c = '.'

end Lexeme

end Spreadsheet

------------------------------------------------------------
-- Tokens
------------------------------------------------------------

namespace Spreadsheet

/-
  A lexeme read for its value.  A number without a digit has
  none, and a bare word is a string.
-/
inductive Token where
  | number (value : Option Float)
  | string (value : String)
  | cell (name : String)
  | range (name : String)
  | function (name : String)
  | operator (symbol : String)
  | paren (symbol : String)
  | comma
  | boolean (value : Bool)
deriving DecidableEq, Repr

/- The word for the kind of a token. -/
def Token.kind :
    Token → String
  | number _ => "NUMBER"
  | string _ => "STRING"
  | cell _ => "CELL"
  | range _ => "RANGE"
  | function _ => "FUNC"
  | operator _ => "OP"
  | paren _ => "PAREN"
  | comma => "COMMA"
  | boolean _ => "BOOL"

namespace Lexeme

/- A text in upper case. -/
def upperText
    (written : List Char) :
    String :=
  String.ofList (Text.upper written)

/- The word for true in either case. -/
def isTrueWord
    (written : List Char) :
    Bool :=
  upperText written == "TRUE"

/-
  The text of a string: what is written without the quote in
  front and, if another one ends it, without that quote.
-/
def unquote
    (written : List Char) :
    List Char :=
  let body := written.drop 1
  if !body.isEmpty && body.getLast? == some '"' then
    body.dropLast
  else
    body

/- The value of a lexeme. -/
def token
    (lexeme : Lexeme) :
    Token :=
  match lexeme.kind with
  | .boolean => .boolean (isTrueWord lexeme.written)
  | .range => .range (upperText lexeme.written)
  | .function => .function (upperText lexeme.written)
  | .cell => .cell (upperText lexeme.written)
  | .word => .string (String.ofList lexeme.written)
  | .string =>
      .string (String.ofList (unquote lexeme.written))
  | .number => .number (Number.leadingDecimal? lexeme.written)
  | .operator op => .operator op.symbol
  | .openParen => .paren "("
  | .closeParen => .paren ")"
  | .comma => .comma

end Lexeme

end Spreadsheet
