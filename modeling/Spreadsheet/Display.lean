import Spreadsheet.Number.Nearest
import Spreadsheet.Value

/-
  Values as a cell shows them.

  Numbers with a fractional part are rounded to a number of
  decimal places, with a half going up.

  Key definitions include:
    * `Spreadsheet.Value.display`
-/

------------------------------------------------------------
-- Display Strings
------------------------------------------------------------

namespace Spreadsheet

namespace Number

/- A number rounded to decimal places, a half going up. -/
def roundHalfUp
    (x : Float)
    (places : Int) :
    Float :=
  let factor := ofDecimal false 1 places
  match floor? (x * factor + 0.5) with
  | some n => ofInt n / factor
  | none => x

end Number

namespace Value

/- What a cell shows for a value. -/
def display
    (places : Int) :
    Value → String
  | number x =>
      let shown :=
        if Number.isFinite x && !Number.isWhole x then
          Number.roundHalfUp x places
        else
          x
      String.ofList (Number.toText shown)
  | text s => s

end Value

end Spreadsheet
