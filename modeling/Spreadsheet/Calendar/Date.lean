import Spreadsheet.Text.Digit

/-
  Dates of the Gregorian calendar.

  The calendar is carried back before its beginning.  Days
  are counted from the first day of year one, which is a
  Monday and has the number one.

  Key definitions include:
    * `Spreadsheet.Date`
    * `Spreadsheet.Date.isValid`
    * `Spreadsheet.Date.next`
    * `Spreadsheet.Date.ordinal`
    * `Spreadsheet.Date.ofOrdinal`
    * `Spreadsheet.Date.ofWeek?`
    * `Spreadsheet.Date.ofSerial?`
    * `Spreadsheet.Moment`
-/

------------------------------------------------------------
-- Years And Months
------------------------------------------------------------

namespace Spreadsheet

/- A day of a month of a year, each counted from one. -/
structure Date where
  year : Nat
  month : Nat
  day : Nat
deriving DecidableEq, Repr

namespace Date

/- Years that have a leap day. -/
def isLeap
    (year : Nat) :
    Bool :=
  year % 4 == 0 && (year % 100 != 0 || year % 400 == 0)

/- The lengths of the months of a year. -/
def monthLengths
    (leap : Bool) :
    List Nat :=
  [31, if leap then 29 else 28, 31, 30, 31, 30,
    31, 31, 30, 31, 30, 31]

/- The length of a month of a year. -/
def monthLength
    (year month : Nat) :
    Nat :=
  (monthLengths (isLeap year)).getD (month - 1) 0

/- The last year that is counted. -/
def lastYear : Nat := 9999

/- A day that the calendar has. -/
def isValid
    (date : Date) :
    Bool :=
  1 ≤ date.year && date.year ≤ lastYear &&
    1 ≤ date.month && date.month ≤ 12 &&
    1 ≤ date.day &&
    date.day ≤ monthLength date.year date.month

/- The day after a day. -/
def next
    (date : Date) :
    Date :=
  if date.day < monthLength date.year date.month then
    { date with day := date.day + 1 }
  else if date.month < 12 then
    ⟨date.year, date.month + 1, 1⟩
  else
    ⟨date.year + 1, 1, 1⟩

end Date

end Spreadsheet

------------------------------------------------------------
-- Numbers Of Days
------------------------------------------------------------

namespace Spreadsheet

namespace Date

/- The number of days before a year. -/
def daysBeforeYear
    (year : Nat) :
    Nat :=
  let y := year - 1
  y * 365 + y / 4 - y / 100 + y / 400

/- The number of days before a month of a year. -/
def daysBeforeMonth
    (year month : Nat) :
    Nat :=
  let lengths := (monthLengths (isLeap year)).take (month - 1)
  lengths.foldl (· + ·) 0

/- The number of a day. -/
def ordinal
    (date : Date) :
    Nat :=
  daysBeforeYear date.year +
    daysBeforeMonth date.year date.month + date.day

/- The month and day at an offset into months of lengths. -/
def splitMonths
    (month : Nat) :
    (lengths : List Nat) → (offset : Nat) → Nat × Nat
  | [], offset => (month, offset + 1)
  | length :: rest, offset =>
      if offset < length then
        (month, offset + 1)
      else
        splitMonths (month + 1) rest (offset - length)

/-
  The year of a day and the number of days of it before the
  day.  Years come in cycles of 400, 100 and 4; the last day
  of a long cycle is the leap day that its parts lack.
-/
def splitYear
    (ordinal : Nat) :
    Nat × Nat :=
  let n := ordinal - 1
  let cycle := n / 146097
  let inCycle := n % 146097
  let century := min (inCycle / 36524) 3
  let inCentury := inCycle - century * 36524
  let four := inCentury / 1461
  let inFour := inCentury % 1461
  let single := min (inFour / 365) 3
  (cycle * 400 + century * 100 + four * 4 + single + 1,
    inFour - single * 365)

/- The day with a number. -/
def ofOrdinal
    (ordinal : Nat) :
    Date :=
  let (year, offset) := splitYear ordinal
  let (month, day) :=
    splitMonths 1 (monthLengths (isLeap year)) offset
  ⟨year, month, day⟩

/- The number of the last day. -/
def lastOrdinal : Nat := 3652059

end Date

end Spreadsheet

------------------------------------------------------------
-- Weeks And Serial Numbers
------------------------------------------------------------

namespace Spreadsheet

namespace Date

/- The day of the week of a numbered day; Monday is zero. -/
def weekday
    (ordinal : Nat) :
    Nat :=
  (ordinal + 6) % 7

/-
  The number of the Monday of the first week of a year, the
  one that holds the first Thursday of the year.
-/
def firstMonday
    (year : Nat) :
    Int :=
  let first := daysBeforeYear year + 1
  let monday : Int := (first : Int) - weekday first
  if weekday first > 3 then monday + 7 else monday

/- A year has a week 53. -/
def hasLongYear
    (year : Nat) :
    Bool :=
  let first := weekday (daysBeforeYear year + 1)
  first == 3 || (first == 2 && isLeap year)

/- The day of a week of a year; Monday is one. -/
def ofWeek?
    (year week day : Nat) :
    Option Date :=
  let weeks := if hasLongYear year then 53 else 52
  if 1 ≤ year ∧ year ≤ lastYear ∧ 1 ≤ week ∧ week ≤ weeks ∧
      1 ≤ day ∧ day ≤ 7 then
    let ordinal :=
      firstMonday year + ((week - 1) * 7 + (day - 1) : Nat)
    if 1 ≤ ordinal ∧ ordinal ≤ lastOrdinal then
      some (ofOrdinal ordinal.toNat)
    else
      none
  else
    none

/- The number of the day whose serial number is zero. -/
def serialZero : Nat := 693594

/- The day of a serial number, counted up to the last day. -/
def ofSerial?
    (serial : Nat) :
    Option Date :=
  if serialZero + serial ≤ lastOrdinal then
    some (ofOrdinal (serialZero + serial))
  else
    none

end Date

end Spreadsheet

------------------------------------------------------------
-- Moments
------------------------------------------------------------

namespace Spreadsheet

/- A day and a time of day. -/
structure Moment where
  date : Date
  hour : Nat
  minute : Nat
  second : Nat
deriving DecidableEq, Repr

/- A number with zeros in front of it up to a width. -/
def padded
    (width n : Nat) :
    List Char :=
  let digits := Text.decimal n
  List.replicate (width - digits.length) '0' ++ digits

/- Year, month and day with the year at a width. -/
def Date.dashed
    (yearWidth : Nat)
    (date : Date) :
    List Char :=
  padded yearWidth date.year ++ '-' ::
    padded 2 date.month ++ '-' :: padded 2 date.day

/- A day as text; the year has four digits. -/
def Date.toText
    (date : Date) :
    String :=
  String.ofList (date.dashed 4)

/- A moment as text; the year has no zeros in front of it. -/
def Moment.toText
    (moment : Moment) :
    String :=
  String.ofList (moment.date.dashed 0 ++
    ' ' :: padded 2 moment.hour ++
    ':' :: padded 2 moment.minute ++
    ':' :: padded 2 moment.second)

end Spreadsheet
