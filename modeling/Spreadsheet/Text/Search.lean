/-
  Occurrences of one text in another.

  Key definitions include:
    * `Spreadsheet.Text.find?`
    * `Spreadsheet.Text.replaceAll`
    * `Spreadsheet.Text.slice`
-/

------------------------------------------------------------
-- First Occurrence
------------------------------------------------------------

namespace Spreadsheet

namespace Text

/- The offset of the first occurrence of a text in another. -/
def find?
    (needle : List Char) :
    List Char → Option Nat
  | [] => if needle.isEmpty then some 0 else none
  | c :: rest =>
      if needle.isPrefixOf (c :: rest) then
        some 0
      else
        (find? needle rest).map (· + 1)

/-
  The offset of the first occurrence at or after a start.  A
  start behind the end of the text finds nothing.
-/
def findFrom?
    (needle hay : List Char)
    (start : Nat) :
    Option Nat :=
  if start ≤ hay.length then
    (find? needle (hay.drop start)).map (· + start)
  else
    none

end Text

end Spreadsheet

------------------------------------------------------------
-- Replacement
------------------------------------------------------------

namespace Spreadsheet

namespace Text

/-
  Replace the leftmost occurrences that do not overlap; the
  first `skip` characters belong to the last one found.
-/
def replaceFrom
    (old new : List Char)
    (skip : Nat) :
    List Char → List Char
  | [] => []
  | c :: rest =>
      match skip with
      | skip + 1 => replaceFrom old new skip rest
      | 0 =>
          if old.isPrefixOf (c :: rest) then
            new ++ replaceFrom old new (old.length - 1) rest
          else
            c :: replaceFrom old new 0 rest

/- Replace every occurrence of a text that is not empty. -/
def replaceAll
    (old new text : List Char) :
    List Char :=
  if old.isEmpty then
    text
  else
    replaceFrom old new 0 text

end Text

end Spreadsheet

------------------------------------------------------------
-- Slices
------------------------------------------------------------

namespace Spreadsheet

namespace Text

/- The characters from an offset on, at most `count` of them. -/
def slice
    (text : List Char)
    (start count : Nat) :
    List Char :=
  (text.drop start).take count

/- The last characters of a text, at most `count` of them. -/
def lastChars
    (text : List Char)
    (count : Nat) :
    List Char :=
  text.drop (text.length - count)

end Text

end Spreadsheet
