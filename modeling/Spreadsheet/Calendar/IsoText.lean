import Spreadsheet.Calendar.Date
import Spreadsheet.Text.Utf8

/-
  Dates written in the international format.

  A date is given by month and day or by week and weekday,
  with or without dashes.  A time of day may follow behind
  any one character: hours, minutes, seconds and a fraction,
  with or without colons, and an offset from the meridian.
  The time has to be one, but only the date counts.  Texts
  are read as bytes.

  Key definitions include:
    * `Spreadsheet.IsoText.dateAt?`
    * `Spreadsheet.IsoText.clock?`
    * `Spreadsheet.IsoText.isTime`
    * `Spreadsheet.IsoText.separatorAt`
    * `Spreadsheet.Date.ofIsoText?`
-/

------------------------------------------------------------
-- Dates
------------------------------------------------------------

namespace Spreadsheet

namespace IsoText

/- The byte of a character of ASCII. -/
def code
    (c : Char) :
    Nat :=
  c.toNat

/- A byte that is a digit. -/
def isDigit
    (byte : Nat) :
    Bool :=
  code '0' ≤ byte && byte ≤ code '9'

/- A number of exactly `count` digits, and what follows. -/
def number?
    (count : Nat)
    (bytes : List Nat) :
    Option (Nat × List Nat) :=
  let digits := bytes.take count
  if digits.length = count && digits.all isDigit then
    some
      (Text.positional 10 (digits.map (· - code '0')),
        bytes.drop count)
  else
    none

/- What follows a byte that must stand first. -/
def expect?
    (byte : Nat) :
    List Nat → Option (List Nat)
  | [] => none
  | first :: rest => if first = byte then some rest else none

/- The day of a month or none if the calendar has none. -/
def day?
    (year month day : Nat) :
    Option Date :=
  let date : Date := ⟨year, month, day⟩
  if date.isValid then some date else none

/-
  A date by week behind its year.  The weekday is missing if
  the date ends before it, and then is Monday.
-/
def weekDate?
    (year : Nat)
    (dashes ended : Bool)
    (bytes : List Nat) :
    Option Date := do
  let (week, rest) ← number? 2 bytes
  if ended then
    Date.ofWeek? year week 1
  else
    let rest ←
      if dashes then expect? (code '-') rest else some rest
    let (day, _) ← number? 1 rest
    Date.ofWeek? year week day

/- A date by month behind its year. -/
def monthDate?
    (year : Nat)
    (dashes : Bool)
    (bytes : List Nat) :
    Option Date := do
  let (month, rest) ← number? 2 bytes
  let rest ←
    if dashes then expect? (code '-') rest else some rest
  let (day, _) ← number? 2 rest
  day? year month day

/- The date at the front of bytes that it ends `length` into. -/
def dateAt?
    (length : Nat)
    (bytes : List Nat) :
    Option Date := do
  let (year, rest) ← number? 4 bytes
  let dashes := rest.head? == some (code '-')
  let rest := if dashes then rest.drop 1 else rest
  match expect? (code 'W') rest with
  | some rest =>
      let weekEnd := if dashes then 8 else 7
      weekDate? year dashes (length ≤ weekEnd) rest
  | none => monthDate? year dashes rest

end IsoText

end Spreadsheet

------------------------------------------------------------
-- Times Of Day
------------------------------------------------------------

namespace Spreadsheet

namespace IsoText

/- Hours, minutes, seconds and millionths of a second. -/
structure Clock where
  hour : Nat
  minute : Nat
  second : Nat
  micro : Nat

/- A time of day. -/
def Clock.isValid
    (clock : Clock) :
    Bool :=
  clock.hour < 24 && clock.minute < 60 && clock.second < 60

/- The whole time in millionths of a second. -/
def Clock.micros
    (clock : Clock) :
    Nat :=
  (clock.hour * 3600 + clock.minute * 60 + clock.second) *
    1000000 + clock.micro

/- The clock of the numbers of a time, the hours first. -/
def Clock.ofNumbers
    (numbers : List Nat)
    (micro : Nat) :
    Clock :=
  ⟨numbers.getD 0 0, numbers.getD 1 0, numbers.getD 2 0,
    micro⟩

/-
  The millionths of a fraction; digits behind the sixth do
  not count.  The second result tells whether anything
  follows.
-/
def fraction?
    (bytes : List Nat)
    (followed : Bool) :
    Option (Nat × Bool) := do
  let count := min bytes.length 6
  let (value, rest) ← number? count bytes
  let rest := rest.dropWhile isDigit
  return (value * Nat.pow 10 (6 - count),
    !rest.isEmpty || followed)

/-
  The numbers of a time behind `done`, of which `left` may
  still come.  `colons` tells whether they are divided;
  `followed` tells whether an offset follows the bytes.  The
  second result tells whether anything follows the time.
-/
def numbers?
    (done : List Nat)
    (colons followed : Bool) :
    (left : Nat) → List Nat → Option (Clock × Bool)
  | 0, bytes => do
      let (micro, more) ← fraction? bytes followed
      return (.ofNumbers done micro, more)
  | left + 1, bytes => do
      let (n, rest) ← number? 2 bytes
      let numbers := done ++ [n]
      let divided :=
        if done.isEmpty then
          rest.head? == some (code ':')
        else
          colons
      match rest with
      | [] => return (.ofNumbers numbers 0, followed)
      | [_] => return (.ofNumbers numbers 0, true)
      | mark :: more =>
          if divided && mark == code ':' then
            numbers? numbers divided followed left more
          else if mark == code '.' || mark == code ',' then
            let (micro, more) ← fraction? more followed
            return (.ofNumbers numbers micro, more)
          else if !divided then
            numbers? numbers divided followed left rest
          else
            none

/- The clock at the front of bytes. -/
def clock?
    (bytes : List Nat)
    (followed : Bool) :
    Option (Clock × Bool) :=
  numbers? [] true followed 3 bytes

/- A byte that starts an offset. -/
def startsOffset
    (byte : Nat) :
    Bool :=
  byte == code '+' || byte == code '-' || byte == code 'Z'

/- One day in millionths of a second. -/
def dayMicros : Nat := 86400 * 1000000

/- An offset from the meridian of less than a day. -/
def isOffset :
    List Nat → Bool
  | [] => true
  | mark :: rest =>
      if mark == code 'Z' then
        rest.isEmpty
      else
        match clock? rest false with
        | some (clock, more) =>
            !more && clock.micros < dayMicros
        | none => false

/- Bytes that are a time of day with an optional offset. -/
def isTime
    (bytes : List Nat) :
    Bool :=
  let main := bytes.takeWhile fun byte => !startsOffset byte
  let offset := bytes.drop main.length
  match clock? main (!offset.isEmpty) with
  | some (clock, more) =>
      clock.isValid && isOffset offset &&
        !(offset.isEmpty && more)
  | none => false

end IsoText

end Spreadsheet

------------------------------------------------------------
-- Dates With Times
------------------------------------------------------------

namespace Spreadsheet

namespace IsoText

/- The byte at an offset, zero behind the end. -/
def byteAt
    (bytes : List Nat)
    (offset : Nat) :
    Nat :=
  bytes.getD offset 0

/-
  Where a date by week with dashes ends.  A third dash
  divides the weekday or the time; a digit two bytes behind
  it shows a time.
-/
def dashedWeekEnd
    (bytes : List Nat) :
    Nat :=
  if 8 < bytes.length ∧ byteAt bytes 8 = code '-' then
    if 10 < bytes.length ∧ isDigit (byteAt bytes 10) then
      8
    else
      10
  else
    8

/-
  Where a date by week without dashes ends.  Times have pairs
  of digits, so an odd number of digits holds a weekday.
-/
def plainWeekEnd
    (bytes : List Nat) :
    Nat :=
  let stop := 7 + ((bytes.drop 7).takeWhile isDigit).length
  if stop < 9 then
    stop
  else if stop % 2 = 0 then
    7
  else
    8

/- Where the date ends in front of a time. -/
def separatorAt
    (bytes : List Nat) :
    Nat :=
  if bytes.length = 7 then
    7
  else if byteAt bytes 4 = code '-' then
    if byteAt bytes 5 = code 'W' then
      dashedWeekEnd bytes
    else
      10
  else if byteAt bytes 4 = code 'W' then
    plainWeekEnd bytes
  else
    8

/- The number of bytes of a character with a first byte. -/
def charLength
    (byte : Nat) :
    Nat :=
  if byte < 0x80 then
    1
  else if byte / 16 = 0xe then
    3
  else if byte / 16 = 0xf then
    4
  else
    2

/- The date of bytes with a time behind one character. -/
def dateWithTime?
    (bytes : List Nat) :
    Option Date := do
  let stop := separatorAt bytes
  let date ← dateAt? stop bytes
  if bytes.length ≤ stop then
    return date
  else
    let rest := bytes.drop stop
    let time := rest.drop (charLength (rest.headD 0))
    if isTime time then return date else none

end IsoText

namespace Date

/- The date of a text, with or without a time. -/
def ofIsoText?
    (text : List Char) :
    Option Date :=
  let bytes := (Text.encode text).map UInt8.toNat
  let length := bytes.length
  let plain :=
    if length = 7 ∨ length = 8 ∨ length = 10 then
      IsoText.dateAt? length bytes
    else
      none
  plain <|> IsoText.dateWithTime? bytes

end Date

end Spreadsheet
