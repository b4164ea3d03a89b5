import Spreadsheet.Number.Layout
import Spreadsheet.Text.Quoted

/-
  Values.

  A cell holds a number or a text.  A function receives such
  a value or the values of an area.  Data from outside may
  also be missing, a truth value or a list of any data.

  Key definitions include:
    * `Spreadsheet.Value`
    * `Spreadsheet.lengthLimit`
    * `Spreadsheet.Argument`
    * `Spreadsheet.Datum`
    * `Spreadsheet.Datum.shown`
-/

------------------------------------------------------------
-- Values Of Cells
------------------------------------------------------------

namespace Spreadsheet

/- What a cell holds. -/
inductive Value where
  | number (x : Float)
  | text (s : String)
deriving DecidableEq, Repr

/- The lengths of texts are below this number. -/
def lengthLimit : Nat := Nat.pow 2 63

/- What a function receives: one value or those of an area. -/
inductive Argument where
  | scalar (value : Value)
  | area (values : List Value)
deriving DecidableEq, Repr

namespace Value

/- The empty text. -/
def empty : Value := .text ""

/- A truth value as a number. -/
def ofBool
    (b : Bool) :
    Value :=
  .number (if b then 1.0 else 0.0)

/- A value that counts as no value: the empty text. -/
def isBlank :
    Value → Bool
  | .number _ => false
  | .text s => s.isEmpty

end Value

end Spreadsheet

------------------------------------------------------------
-- Data From Outside
------------------------------------------------------------

namespace Spreadsheet

/- Data that coercions accept. -/
inductive Datum where
  | missing
  | truth (b : Bool)
  | scalar (value : Value)
  | list (items : List Datum)
deriving Repr

namespace Datum

mutual

/- Data as a message shows them. -/
def shown :
    Datum → List Char
  | missing => "None".toList
  | truth b => Text.truthWord b
  | scalar (.number x) => Number.toMessage x
  | scalar (.text s) => Text.quoted s.toList
  | list items =>
      '[' :: Text.commaSeparated (shownItems items) ++ [']']
termination_by structural datum => datum

/- The items of a list as a message shows them. -/
def shownItems :
    List Datum → List (List Char)
  | [] => []
  | item :: rest => item.shown :: shownItems rest
termination_by structural items => items

end

end Datum

end Spreadsheet
