import Spreadsheet.Calendar.Date
import Spreadsheet.Document
import Spreadsheet.Number.Numeral
import Spreadsheet.Text.Blank
import Spreadsheet.Yaml.Token

/-
  What the form of a YAML scalar says.

  A plain scalar is a number, a truth value, a date or nothing
  if it has the form of one, and otherwise a text.  Numbers
  may hold underscores, may be written in other bases, and may
  be counted in sixties.

  Key definitions include:
    * `Spreadsheet.Yaml.Form`
    * `Spreadsheet.Yaml.Form.ofText`
    * `Spreadsheet.Yaml.whole`
    * `Spreadsheet.Yaml.float`
    * `Spreadsheet.Yaml.Stamp.ofText?`
-/

------------------------------------------------------------
-- Forms
------------------------------------------------------------

namespace Spreadsheet

namespace Yaml

/-
  The forms that scalars have.  Two of them matter only for
  keys: the one that merges mappings into another and the one
  that stands for a default.  Bytes are always tagged.
-/
inductive Form where
  | null
  | truth
  | whole
  | float
  | stamp
  | merge
  | default
  | binary
  | text
deriving DecidableEq, Repr

/- Words for truth values, in lower case. -/
def truthWords : List (List Char × Bool) :=
  [
    ("yes".toList, true),
    ("no".toList, false),
    ("true".toList, true),
    ("false".toList, false),
    ("on".toList, true),
    ("off".toList, false)
  ]

/- A text in lower case; letters other than ASCII are kept. -/
def lowered
    (text : List Char) :
    List Char :=
  text.map Char.toLower

/- A word in lower case, upper case or with a capital. -/
def hasOneCase
    (text : List Char) :
    Bool :=
  let behind := text.drop 1
  behind.all Char.isLower || text.all Char.isUpper

/- The truth value that a word stands for in any case. -/
def truth?
    (text : List Char) :
    Option Bool :=
  truthWords.lookup (lowered text)

/- A plain scalar is a truth value. -/
def isTruth
    (text : List Char) :
    Bool :=
  (truth? text).isSome && hasOneCase text

/- A plain scalar is nothing. -/
def isNull
    (text : List Char) :
    Bool :=
  text.isEmpty || text = ['~'] ||
    (lowered text = "null".toList && hasOneCase text)

end Yaml

end Spreadsheet

------------------------------------------------------------
-- Whole Numbers
------------------------------------------------------------

namespace Spreadsheet

namespace Yaml

/- A digit or an underscore. -/
def isDigitPart
    (c : Char) :
    Bool :=
  c.isDigit || c = '_'

/- Digits and underscores behind a first digit. -/
def isDigitRun :
    List Char → Bool
  | [] => false
  | c :: rest => c.isDigit && rest.all isDigitPart

/- Digits and underscores behind a first digit but zero. -/
def isPositiveRun :
    List Char → Bool
  | [] => false
  | c :: rest =>
      c.isDigit && c ≠ '0' && rest.all isDigitPart

/- The parts of a text between colons. -/
def colonParts :
    List Char → List (List Char)
  | [] => [[]]
  | ':' :: rest => [] :: colonParts rest
  | c :: rest =>
      match colonParts rest with
      | [] => [[c]]
      | part :: parts => (c :: part) :: parts

/- One or two digits below sixty. -/
def isSixtieth :
    List Char → Bool
  | [a] => a.isDigit
  | [a, b] => a.isDigit && a ≤ '5' && b.isDigit
  | _ => false

/- Parts behind the first, of which there must be some. -/
def areSixtieths
    (parts : List (List Char)) :
    Bool :=
  !parts.isEmpty && parts.all isSixtieth

/- The form of a whole number without its sign. -/
def isUnsignedWhole :
    List Char → Bool
  | '0' :: 'b' :: c :: rest =>
      (c :: rest).all fun c => c = '0' || c = '1' || c = '_'
  | '0' :: 'x' :: c :: rest =>
      (c :: rest).all fun c =>
        (hexDigit? c).isSome || c = '_'
  | '0' :: c :: rest =>
      (c :: rest).all fun c =>
        ('0' ≤ c && c ≤ '7') || c = '_'
  | ['0'] => true
  | text =>
      match colonParts text with
      | first :: parts =>
          isPositiveRun first &&
            (parts.isEmpty || areSixtieths parts)
      | [] => false

/- A plain scalar is a whole number. -/
def isWhole
    (text : List Char) :
    Bool :=
  isUnsignedWhole (Number.splitSign text).2

/- The message about a text that is no whole number. -/
def wholeMessage
    (base : Nat)
    (text : List Char) :
    String :=
  "invalid literal for int() with base " ++
    String.ofList (Text.decimal base) ++ ": " ++
    String.ofList (Text.quoted text)

/- The letters behind a zero that tell a base. -/
def baseMarks :
    (base : Nat) → List Char
  | 2 => ['b', 'B']
  | 8 => ['o', 'O']
  | 16 => ['x', 'X']
  | _ => []

/- Digits without the mark of their base. -/
def behindBaseMark
    (base : Nat) :
    List Char → List Char
  | '0' :: mark :: rest =>
      if (baseMarks base).contains mark then
        rest
      else
        '0' :: mark :: rest
  | digits => digits

/- The value of a digit of any script, or of a letter. -/
def digitValue?
    (c : Char) :
    Option Nat :=
  (Text.digit? c).or (hexDigit? c)

/-
  The number of digits in a base, with a sign and white space
  around them or not.
-/
def wholeInBase
    (base : Nat)
    (text : List Char) :
    Except YamlFault Int :=
  let signed := Number.splitSign (Text.trim text)
  let digits := behindBaseMark base signed.2
  let values := digits.filterMap digitValue?
  if digits.isEmpty || values.length < digits.length ||
      values.any (base ≤ ·) then
    .error (.invalid (wholeMessage base text))
  else if base = 10 ∧ Text.longestNumeral < digits.length then
    .error (.tooManyDigits digits.length)
  else
    let n : Int := Text.positional base values
    .ok (if signed.1 then -n else n)

/-
  A whole number without underscores, behind its sign; there
  must be something of it.
-/
def wholeBehindSign :
    List Char → Except YamlFault Int
  | [] => .error .malformed
  | ['0'] => .ok 0
  | '0' :: 'b' :: rest => wholeInBase 2 rest
  | '0' :: 'x' :: rest => wholeInBase 16 rest
  | '0' :: rest => wholeInBase 8 ('0' :: rest)
  | text => do
      let parts ← (colonParts text).mapM (wholeInBase 10)
      return parts.foldl (fun n part => n * 60 + part) 0

/- The whole number that a text stands for. -/
def whole
    (text : List Char) :
    Except YamlFault Int := do
  let signed :=
    Number.splitSign (text.filter (· ≠ '_'))
  let n ← wholeBehindSign signed.2
  return if signed.1 then -n else n

end Yaml

end Spreadsheet

------------------------------------------------------------
-- Floats
------------------------------------------------------------

namespace Spreadsheet

namespace Yaml

/- An exponent with its sign. -/
def isExponent :
    List Char → Bool
  | e :: sign :: c :: rest =>
      (e = 'e' || e = 'E') && (sign = '+' || sign = '-') &&
        (c :: rest).all Char.isDigit
  | _ => false

/- Digits and underscores with an exponent behind them or not. -/
def isFraction
    (text : List Char) :
    Bool :=
  let behind := text.dropWhile isDigitPart
  behind.isEmpty || isExponent behind

/- The words for an infinite number and for no number. -/
def isFloatWord
    (word : List Char)
    (text : List Char) :
    Bool :=
  lowered text = word && hasOneCase text

/- Not a number, in the one spelling that mixes cases. -/
def isNaNWord
    (text : List Char) :
    Bool :=
  text = "nan".toList || text = "NaN".toList ||
    text = "NAN".toList

/- The form of a float around its point. -/
def isFloatAround
    (signed : Bool)
    (before after : List Char) :
    Bool :=
  if before.isEmpty then
    isFloatWord "inf".toList after ||
      (!signed && (isNaNWord after ||
        (after.head?.any Char.isDigit && isFraction after)))
  else
    match colonParts before with
    | [_] => isDigitRun before && isFraction after
    | first :: parts =>
        isDigitRun first && areSixtieths parts &&
          after.all isDigitPart
    | [] => false

/- A plain scalar is a float. -/
def isFloat
    (text : List Char) :
    Bool :=
  let body := (Number.splitSign text).2
  match body.dropWhile (· ≠ '.') with
  | '.' :: after =>
      isFloatAround (body.length < text.length)
        (body.takeWhile (· ≠ '.')) after
  | _ => false

/- The message about a text that is no float. -/
def floatMessage
    (text : List Char) :
    String :=
  "could not convert string to float: " ++
    String.ofList (Text.quoted text)

/- The words for floats that are not finite. -/
def floatWords : List (List Char × Float) :=
  [
    ("inf".toList, 1.0 / 0.0),
    ("infinity".toList, 1.0 / 0.0),
    ("nan".toList, 0.0 / 0.0)
  ]

/- The float that a word with a sign or not stands for. -/
def floatOfWord?
    (text : List Char) :
    Option Float :=
  let signed := Number.splitSign text
  (floatWords.lookup signed.2).map fun x =>
    if signed.1 then -x else x

/- A part of a float, with white space around it or not. -/
def floatPart
    (text : List Char) :
    Except YamlFault Float :=
  let trimmed := Text.trim text
  match (Number.decimal? trimmed).or (floatOfWord? trimmed) with
  | some x => .ok x
  | none => .error (.invalid (floatMessage text))

/-
  The sum of parts of which each counts sixty of the next.  No
  part may count more than the floats reach.
-/
def sixtieths :
    (unit : Nat) → List Float → Float →
      Except YamlFault Float
  | _, [], sum => .ok sum
  | unit, part :: rest, sum =>
      let factor := Number.ofInt unit
      if Number.isFinite factor then
        sixtieths (unit * 60) rest (sum + part * factor)
      else
        .error .malformed

/- A float without sign and underscores, in lower case. -/
def unsignedFloat
    (text : List Char) :
    Except YamlFault Float :=
  if text = ".inf".toList then
    .ok (1.0 / 0.0)
  else if text = ".nan".toList then
    .ok (0.0 / 0.0)
  else
    match colonParts text with
    | [part] => floatPart part
    | parts => do
        let parts ← parts.mapM floatPart
        sixtieths 1 parts.reverse 0.0

/-
  The float that a text stands for; there must be something
  besides underscores.
-/
def float
    (text : List Char) :
    Except YamlFault Float := do
  let written := lowered (text.filter (· ≠ '_'))
  if written.isEmpty then
    throw .malformed
  let signed := Number.splitSign written
  let x ← unsignedFloat signed.2
  return if signed.1 then -x else x

end Yaml

end Spreadsheet

------------------------------------------------------------
-- Dates
------------------------------------------------------------

namespace Spreadsheet

namespace Yaml

/- The distance to universal time in minutes, where given. -/
inductive Zone where
  | absent
  | universal
  | offset (minutes : Int)
deriving DecidableEq, Repr

/- A time of day. -/
structure TimeOfDay where
  hour : Nat
  minute : Nat
  second : Nat
  micro : Nat
  zone : Zone
deriving DecidableEq, Repr

/- A day, and possibly a time on it. -/
structure Stamp where
  year : Nat
  month : Nat
  day : Nat
  time : Option TimeOfDay
deriving DecidableEq, Repr

/- At least and at most so many digits, and what follows. -/
def digits?
    (least most : Nat)
    (text : List Char) :
    Option (Nat × List Char) :=
  let found := (text.take most).takeWhile Char.isDigit
  if found.length < least then
    none
  else
    some (Text.decimalValue found, text.drop found.length)

/- A given character, and what follows. -/
def after?
    (c : Char) :
    List Char → Option (List Char)
  | [] => none
  | first :: rest => if first = c then some rest else none

/- The digits of a fraction as a number of millionths. -/
def micros
    (digits : List Char) :
    Nat :=
  Text.decimalValue
    ((digits ++ List.replicate 6 '0').take 6)

/- A fraction that may be there. -/
def fraction :
    List Char → Nat × List Char
  | '.' :: rest =>
      (micros (rest.takeWhile Char.isDigit),
        rest.dropWhile Char.isDigit)
  | text => (0, text)

/- A distance of hours and possibly minutes, to the end. -/
def offset?
    (negative : Bool)
    (text : List Char) :
    Option Zone := do
  let (hours, rest) ← digits? 1 2 text
  let (minutes, rest) ←
    match rest with
    | ':' :: rest => digits? 2 2 rest
    | rest => some (0, rest)
  if rest.isEmpty then
    let size : Int := hours * 60 + minutes
    return .offset (if negative then -size else size)
  else
    none

/- The zone behind a time, to the end of the text. -/
def zone?
    (text : List Char) :
    Option Zone :=
  if text.isEmpty then
    some .absent
  else
    match text.dropWhile isBlank with
    | ['Z'] => some .universal
    | '+' :: rest => offset? false rest
    | '-' :: rest => offset? true rest
    | _ => none

/- A time of day, to the end of the text. -/
def timeOfDay?
    (text : List Char) :
    Option TimeOfDay := do
  let (hour, rest) ← digits? 1 2 text
  let rest ← after? ':' rest
  let (minute, rest) ← digits? 2 2 rest
  let rest ← after? ':' rest
  let (second, rest) ← digits? 2 2 rest
  let (micro, rest) := fraction rest
  let zone ← zone? rest
  return { hour, minute, second, micro, zone }

/- What stands behind a date, if it separates a time from it. -/
def behindDate? :
    List Char → Option (List Char)
  | [] => none
  | c :: rest =>
      if c = 'T' || c = 't' then
        some rest
      else if isBlank c then
        some (rest.dropWhile isBlank)
      else
        none

namespace Stamp

/-
  A date or a date with a time.  A date alone has two digits
  for month and day.
-/
def ofText?
    (text : List Char) :
    Option Stamp := do
  let (year, rest) ← digits? 4 4 text
  let rest ← after? '-' rest
  let (month, rest) ← digits? 1 2 rest
  let rest ← after? '-' rest
  let (day, rest) ← digits? 1 2 rest
  if rest.isEmpty then
    if text.length = 10 then
      return ⟨year, month, day, none⟩
    else
      none
  else
    let time ← timeOfDay? (← behindDate? rest)
    return ⟨year, month, day, some time⟩

end Stamp

end Yaml

end Spreadsheet

------------------------------------------------------------
-- Dates In Messages
------------------------------------------------------------

namespace Spreadsheet

namespace Yaml

/- Seconds as a length of time in a message. -/
def shownSeconds
    (seconds : Int) :
    String :=
  let days := seconds.fdiv 86400
  let rest := seconds.fmod 86400
  let parts :=
    (if days = 0 then [] else
      ["days=" ++ String.ofList (Text.integer days)]) ++
    (if rest = 0 then [] else
      ["seconds=" ++ String.ofList (Text.integer rest)])
  let parts := if parts.isEmpty then ["0"] else parts
  "datetime.timedelta(" ++ ", ".intercalate parts ++ ")"

/- The universal time zone in a message. -/
def universalZone : String := "datetime.timezone.utc"

namespace Zone

/- A zone in a message, if there is one. -/
def shown? :
    Zone → Except YamlFault (Option String)
  | absent => .ok none
  | universal => .ok (some universalZone)
  | offset minutes =>
      let length := shownSeconds (minutes * 60)
      if minutes = 0 then
        .ok (some universalZone)
      else if minutes.natAbs < 1440 then
        .ok (some ("datetime.timezone(" ++ length ++ ")"))
      else
        .error (.invalid
          ("offset must be a timedelta strictly between " ++
            "-timedelta(hours=24) and timedelta(hours=24), " ++
            "not " ++ length ++ "."))

end Zone

/- Numbers between commas. -/
def shownNumbers
    (numbers : List Nat) :
    String :=
  ", ".intercalate
    (numbers.map fun n => String.ofList (Text.decimal n))

namespace TimeOfDay

/- The parts of a time that a message shows. -/
def shownParts
    (time : TimeOfDay) :
    List Nat :=
  [time.hour, time.minute] ++
    (if time.second = 0 ∧ time.micro = 0 then [] else
      [time.second]) ++
    (if time.micro = 0 then [] else [time.micro])

/- A part of a time that is out of its range. -/
def check
    (time : TimeOfDay) :
    Except YamlFault Unit :=
  if 23 < time.hour then
    .error (.invalid "hour must be in 0..23")
  else if 59 < time.minute then
    .error (.invalid "minute must be in 0..59")
  else if 59 < time.second then
    .error (.invalid "second must be in 0..59")
  else
    .ok ()

end TimeOfDay

namespace Stamp

/- A part of a date that is out of its range. -/
def checkDate
    (stamp : Stamp) :
    Except YamlFault Unit :=
  if stamp.year < 1 then
    .error (.invalid
      ("year " ++ shownNumbers [stamp.year] ++
        " is out of range"))
  else if stamp.month < 1 ∨ 12 < stamp.month then
    .error (.invalid "month must be in 1..12")
  else if Date.isValid ⟨stamp.year, stamp.month, stamp.day⟩ then
    .ok ()
  else
    .error (.invalid "day is out of range for month")

/- A date, with a time or without, in a message. -/
def shown
    (stamp : Stamp) :
    Except YamlFault String := do
  let date := [stamp.year, stamp.month, stamp.day]
  match stamp.time with
  | none =>
      stamp.checkDate
      return "datetime.date(" ++ shownNumbers date ++ ")"
  | some time =>
      let zone ← time.zone.shown?
      stamp.checkDate
      time.check
      let zone :=
        match zone with
        | some zone => ", tzinfo=" ++ zone
        | none => ""
      return "datetime.datetime(" ++
        shownNumbers (date ++ time.shownParts) ++ zone ++ ")"

end Stamp

end Yaml

end Spreadsheet

------------------------------------------------------------
-- The Form Of A Text
------------------------------------------------------------

namespace Spreadsheet

namespace Yaml

namespace Form

/- The form of a plain scalar. -/
def ofText
    (text : List Char) :
    Form :=
  if isTruth text then
    .truth
  else if isFloat text then
    .float
  else if isWhole text then
    .whole
  else if text = ['<', '<'] then
    .merge
  else if isNull text then
    .null
  else if (Stamp.ofText? text).isSome then
    .stamp
  else if text = ['='] then
    .default
  else
    .text

end Form

end Yaml

end Spreadsheet
