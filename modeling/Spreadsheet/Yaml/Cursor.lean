/-
  Places in a YAML text.

  A cursor holds the rest of a text and where it starts: the
  offset, the line and the column, all counted from zero.

  Key definitions include:
    * `Spreadsheet.Yaml.Cursor`
    * `Spreadsheet.Yaml.Cursor.advance`
    * `Spreadsheet.Yaml.Cursor.span`
    * `Spreadsheet.Yaml.Cursor.lineBreak`
-/

------------------------------------------------------------
-- Characters
------------------------------------------------------------

namespace Spreadsheet

namespace Yaml

/- A character that ends a line. -/
def isBreak
    (c : Char) :
    Bool :=
  c = '\n' || c = '\r' || c.toNat = 0x85 ||
    c.toNat = 0x2028 || c.toNat = 0x2029

/- A space or a tab. -/
def isBlank
    (c : Char) :
    Bool :=
  c = ' ' || c = '\t'

/- What may follow is the end of the text or of the line. -/
def endsLine
    (next : Option Char) :
    Bool :=
  next.all isBreak

/- The end of the text or of the line, or a space. -/
def endsLineOrSpace
    (next : Option Char) :
    Bool :=
  next.all fun c => c = ' ' || isBreak c

/- The end of the text or of the line, a space or a tab. -/
def endsWord
    (next : Option Char) :
    Bool :=
  next.all fun c => isBlank c || isBreak c

/- A character that a text may hold. -/
def isAllowed
    (c : Char) :
    Bool :=
  let n := c.toNat
  n = 0x9 || n = 0xa || n = 0xd || n = 0x85 ||
    (0x20 ≤ n && n ≤ 0x7e) ||
    (0xa0 ≤ n && n ≤ 0xfffd) ||
    0x10000 ≤ n

/- A mark in front of a text that is no part of it. -/
def isByteOrderMark
    (c : Char) :
    Bool :=
  c.toNat = 0xfeff

end Yaml

end Spreadsheet

------------------------------------------------------------
-- Cursors
------------------------------------------------------------

namespace Spreadsheet

namespace Yaml

/- The rest of a text and where it starts. -/
structure Cursor where
  rest : List Char
  offset : Nat
  line : Nat
  column : Nat
deriving Repr

namespace Cursor

/- The start of a text. -/
def start
    (text : List Char) :
    Cursor :=
  ⟨text, 0, 0, 0⟩

/- The character at a distance. -/
def peek?
    (distance : Nat)
    (cursor : Cursor) :
    Option Char :=
  cursor.rest[distance]?

/- The next character. -/
def next?
    (cursor : Cursor) :
    Option Char :=
  cursor.rest.head?

/- The next character is a given one. -/
def isAt
    (c : Char)
    (cursor : Cursor) :
    Bool :=
  cursor.next? = some c

/- A character ends its line, given the text behind it. -/
def closesLine
    (c : Char)
    (behind : List Char) :
    Bool :=
  isBreak c && !(c = '\r' && behind.head? = some '\n')

/- Step over one character. -/
def step
    (cursor : Cursor) :
    Cursor :=
  match cursor.rest with
  | [] => cursor
  | c :: rest =>
      if closesLine c rest then
        ⟨rest, cursor.offset + 1, cursor.line + 1, 0⟩
      else if isByteOrderMark c then
        { cursor with rest, offset := cursor.offset + 1 }
      else
        {
          cursor with
          rest
          offset := cursor.offset + 1
          column := cursor.column + 1
        }

/- Step over characters. -/
def advance :
    (count : Nat) → Cursor → Cursor
  | 0, cursor => cursor
  | count + 1, cursor => cursor.step.advance count

/- The longest run of characters of a class, and the rest. -/
def span
    (p : Char → Bool)
    (cursor : Cursor) :
    List Char × Cursor :=
  let found := cursor.rest.takeWhile p
  (found, cursor.advance found.length)

/- Step over the longest run of characters of a class. -/
def skip
    (p : Char → Bool)
    (cursor : Cursor) :
    Cursor :=
  (cursor.span p).2

/- Step over spaces. -/
def skipSpaces
    (cursor : Cursor) :
    Cursor :=
  cursor.skip (· = ' ')

/- Step over a comment, if there is one. -/
def skipComment
    (cursor : Cursor) :
    Cursor :=
  if cursor.isAt '#' then
    cursor.skip fun c => !isBreak c
  else
    cursor

/-
  The break that ends a line, if the line ends here.  Breaks
  are read as line feeds, but for those that separate lines
  or paragraphs.
-/
def lineBreak
    (cursor : Cursor) :
    List Char × Cursor :=
  match cursor.rest with
  | '\r' :: '\n' :: _ => (['\n'], cursor.advance 2)
  | c :: _ =>
      if c.toNat = 0x2028 || c.toNat = 0x2029 then
        ([c], cursor.step)
      else if isBreak c then
        (['\n'], cursor.step)
      else
        ([], cursor)
  | [] => ([], cursor)

/- Three characters that start or end a document are next. -/
def isAtMark
    (mark : List Char)
    (cursor : Cursor) :
    Bool :=
  mark.isPrefixOf cursor.rest &&
    endsWord (cursor.peek? mark.length)

/- The mark that starts a document. -/
def startMark : List Char := ['-', '-', '-']

/- The mark that ends a document. -/
def endMark : List Char := ['.', '.', '.']

/- A document starts or ends here. -/
def isAtDocument
    (cursor : Cursor) :
    Bool :=
  cursor.isAtMark startMark || cursor.isAtMark endMark

end Cursor

end Yaml

end Spreadsheet
