import Spreadsheet.Calendar.IsoText
import Spreadsheet.Function.Call
import Spreadsheet.Text.Blank

/-
  Date functions.

  A date is a serial number or a text.  Texts that are
  numbers are serial numbers, and a blank text is no date.

  Key definitions include:
    * `Spreadsheet.Date.ofSerial`
    * `Spreadsheet.Value.toDate`
    * `Spreadsheet.Call.datePart`
-/

------------------------------------------------------------
-- Values As Dates
------------------------------------------------------------

namespace Spreadsheet

namespace Date

/- The date of a serial number without its fraction. -/
def ofSerial
    (serial : Float) :
    Except Failure Date :=
  if serial < 1.0 then
    .error (.invalidSerial serial)
  else
    match (Number.truncate? serial).bind fun n =>
        ofSerial? n.toNat with
    | some date => .ok date
    | none => .error (.invalidSerial serial)

/- The date of a text that is no number. -/
def ofText
    (text : String) :
    Except Failure Date :=
  match ofIsoText? (Text.trim text.toList) with
  | some date => .ok date
  | none => .error (.unreadableDate text)

end Date

namespace Value

/- The date of a value. -/
def toDate :
    Value → Except Failure Date
  | number x => Date.ofSerial x
  | text s => do
      if (Text.trim s.toList).isEmpty then
        Date.ofText s
      else
        match ← numberOfText s with
        | some x => Date.ofSerial x
        | none => Date.ofText s

end Value

end Spreadsheet

------------------------------------------------------------
-- Parts Of Dates
------------------------------------------------------------

namespace Spreadsheet

namespace Call

/- A part of a date as a number. -/
def datePart
    (part : Date → Nat)
    (call : Call) :
    Except Failure Value := do
  let value ← (call.argument 0 .empty).single
  let date ← value.toDate
  return .number (Number.ofInt (part date))

end Call

end Spreadsheet
