import Spreadsheet.Document

/-
  Documents written as JSON.

  All characters but printable ASCII ones are escaped.  A
  line has its names sorted by code points, with a space
  behind each comma and colon; an indented text keeps the
  order of the names and gives each item a line of its own.

  Key definitions include:
    * `Spreadsheet.Json.quoted`
    * `Spreadsheet.Document.isWritable`
    * `Spreadsheet.Document.toLine`
    * `Spreadsheet.Document.toIndented`
-/

------------------------------------------------------------
-- Scalars
------------------------------------------------------------

namespace Spreadsheet

namespace Json

/- A code unit as an escape. -/
def escapedUnit
    (n : Nat) :
    List Char :=
  '\\' :: 'u' :: Text.hexDigits 4 n

/-
  A character as one escape, or as two for a code point
  beyond four digits.
-/
def escapedCode
    (n : Nat) :
    List Char :=
  if n < 0x10000 then
    escapedUnit n
  else
    escapedUnit (0xd800 + (n - 0x10000) / 0x400) ++
      escapedUnit (0xdc00 + (n - 0x10000) % 0x400)

/- A character inside a string. -/
def escaped
    (c : Char) :
    List Char :=
  if c = '"' || c = '\\' then
    ['\\', c]
  else if c = '\n' then
    ['\\', 'n']
  else if c = '\r' then
    ['\\', 'r']
  else if c = '\t' then
    ['\\', 't']
  else if c.toNat = 8 then
    ['\\', 'b']
  else if c.toNat = 12 then
    ['\\', 'f']
  else if 0x20 ≤ c.toNat ∧ c.toNat < 0x7f then
    [c]
  else
    escapedCode c.toNat

/- A text as a string. -/
def quoted
    (text : List Char) :
    List Char :=
  '"' :: text.flatMap escaped ++ ['"']

/- A float, with words for those that are not finite. -/
def float
    (x : Float) :
    List Char :=
  match Number.Binary.ofFloat x with
  | .nan => "NaN".toList
  | .infinite negative =>
      if negative then
        "-Infinity".toList
      else
        "Infinity".toList
  | .finite _ _ _ => Number.toMessage x

/- A truth value. -/
def truth
    (b : Bool) :
    List Char :=
  if b then "true".toList else "false".toList

end Json

end Spreadsheet

------------------------------------------------------------
-- Lines
------------------------------------------------------------

namespace Spreadsheet

namespace Json

/- Put a written entry among written entries by its name. -/
def insertEntry
    (entry : String × List Char) :
    List (String × List Char) → List (String × List Char)
  | [] => [entry]
  | first :: rest =>
      if entry.1 ≤ first.1 then
        entry :: first :: rest
      else
        first :: insertEntry entry rest

/- Written entries sorted by name. -/
def sortEntries
    (entries : List (String × List Char)) :
    List (String × List Char) :=
  entries.foldr insertEntry []

/- A written entry behind its name. -/
def named
    (entry : String × List Char) :
    List Char :=
  quoted entry.1.toList ++ ':' :: ' ' :: entry.2

end Json

namespace Document

mutual

/- The characters of a document on one line. -/
def line :
    Document → List Char
  | null => "null".toList
  | truth b => Json.truth b
  | whole n => Text.integer n
  | float x => Json.float x
  | text s => Json.quoted s.toList
  | list items =>
      '[' :: Text.commaSeparated (lineItems items) ++ [']']
  | map entries =>
      '{' :: Text.commaSeparated
        ((Json.sortEntries (lineEntries entries)).map
          Json.named) ++ ['}']
  | other shown => Json.quoted shown.toList
termination_by structural document => document

/- The characters of each item of a list on one line. -/
def lineItems :
    List Document → List (List Char)
  | [] => []
  | item :: rest => item.line :: lineItems rest
termination_by structural items => items

/- The entries of a map, each on one line. -/
def lineEntries :
    List (String × Document) → List (String × List Char)
  | [] => []
  | (name, document) :: rest =>
      (name, document.line) :: lineEntries rest
termination_by structural entries => entries

end

variable {ν : Type}

mutual

/-
  A document can be written: no integer in it has more digits
  than are written.
-/
def isWritable :
    Document ν → Bool
  | whole n =>
      (Text.decimal n.natAbs).length ≤ Text.longestNumeral
  | list items => areWritable items
  | map entries => haveWritable entries
  | _ => true
termination_by structural document => document

/- All items of a list can be written. -/
def areWritable :
    List (Document ν) → Bool
  | [] => true
  | item :: rest => item.isWritable && areWritable rest
termination_by structural items => items

/- All entries of a map can be written. -/
def haveWritable :
    List (ν × Document ν) → Bool
  | [] => true
  | (_, document) :: rest =>
      document.isWritable && haveWritable rest
termination_by structural entries => entries

end

/- A document on one line, with its names sorted. -/
def toLine
    (document : Document) :
    String :=
  String.ofList document.line

end Document

end Spreadsheet

------------------------------------------------------------
-- Indented Text
------------------------------------------------------------

namespace Spreadsheet

namespace Json

/- A line end and the indentation of a depth. -/
def newLine
    (depth : Nat) :
    List Char :=
  '\n' :: List.replicate (2 * depth) ' '

/- Parts on lines of their own, with commas behind them. -/
def partLines
    (depth : Nat) :
    List (List Char) → List Char
  | [] => []
  | [part] => newLine depth ++ part
  | part :: rest =>
      newLine depth ++ part ++ ',' :: partLines depth rest

/- Parts between brackets; without parts nothing between. -/
def bracketed
    (opening closing : Char)
    (depth : Nat)
    (parts : List (List Char)) :
    List Char :=
  if parts.isEmpty then
    [opening, closing]
  else
    opening :: partLines (depth + 1) parts ++
      newLine depth ++ [closing]

end Json

namespace Document

mutual

/- The characters of a document at a depth. -/
def indented
    (depth : Nat) :
    Document → List Char
  | null => "null".toList
  | truth b => Json.truth b
  | whole n => Text.integer n
  | float x => Json.float x
  | text s => Json.quoted s.toList
  | list items =>
      Json.bracketed '[' ']' depth
        (indentedItems (depth + 1) items)
  | map entries =>
      Json.bracketed '\x7b' '\x7d' depth
        (indentedEntries (depth + 1) entries)
  | other shown => Json.quoted shown.toList
termination_by structural document => document

/- The characters of each item of a list at a depth. -/
def indentedItems
    (depth : Nat) :
    List Document → List (List Char)
  | [] => []
  | item :: rest =>
      item.indented depth :: indentedItems depth rest
termination_by structural items => items

/- The entries of a map at a depth, behind their names. -/
def indentedEntries
    (depth : Nat) :
    List (String × Document) → List (List Char)
  | [] => []
  | (name, document) :: rest =>
      Json.named (name, document.indented depth) ::
        indentedEntries depth rest
termination_by structural entries => entries

end

/- A document on lines, with its names in their order. -/
def toIndented
    (document : Document) :
    String :=
  String.ofList (indented 0 document)

end Document

end Spreadsheet
