/-
  Ranges of code points.

  Properties of characters that a standard lists, such as
  being printable or having a case, are given as tables of
  inclusive ranges.

  Key definitions include:
    * `Spreadsheet.Text.CodeRange`
    * `Spreadsheet.Text.CodeRange.covers`
-/

------------------------------------------------------------
-- Ranges Of Code Points
------------------------------------------------------------

namespace Spreadsheet

namespace Text

/- The code points from `first` to `last`, both included. -/
structure CodeRange where
  first : Nat
  last : Nat

namespace CodeRange

/- Membership of a code point in one range. -/
def contains
    (range : CodeRange)
    (code : Nat) :
    Bool :=
  range.first ≤ code && code ≤ range.last

/- Membership of a character in some range of a table. -/
def covers
    (table : List CodeRange)
    (c : Char) :
    Bool :=
  table.any fun range => range.contains c.toNat

end CodeRange

end Text

end Spreadsheet
