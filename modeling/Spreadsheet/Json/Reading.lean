import Spreadsheet.Document
import Spreadsheet.Number.Nearest

/-
  Documents read from JSON.

  Besides the standard the words `NaN`, `Infinity` and
  `-Infinity` are numbers.  A whole number is no float, and
  one of too many digits cannot be read.  A text may have code
  units that are halves of characters; it is kept as it is
  shown.  Of entries with one name the last counts.

  Key definitions include:
    * `Spreadsheet.JsonFault`
    * `Spreadsheet.Json.string`
    * `Spreadsheet.Json.number`
    * `Spreadsheet.Json.value`
    * `Spreadsheet.Document.ofJson`
-/

------------------------------------------------------------
-- Faults And Blanks
------------------------------------------------------------

namespace Spreadsheet

/- Why a text is no document. -/
inductive JsonFault where
  | malformed
  | tooManyDigits (digits : Nat)
deriving DecidableEq, Repr

namespace Json

/- The blanks that may stand between parts. -/
def isBlank
    (c : Char) :
    Bool :=
  c = ' ' || c = '\t' || c = '\n' || c = '\r'

/- A text behind the blanks it starts with. -/
def skipBlanks
    (text : List Char) :
    List Char :=
  text.dropWhile isBlank

/- The text behind a word, if it starts with the word. -/
def afterWord?
    (word : List Char) :
    (text : List Char) → Option (List Char)
  | text =>
      if word.isPrefixOf text then
        some (text.drop word.length)
      else
        none

end Json

end Spreadsheet

------------------------------------------------------------
-- Strings
------------------------------------------------------------

namespace Spreadsheet

namespace Json

/- The value of a hexadecimal digit. -/
def hexDigit?
    (c : Char) :
    Option Nat :=
  if '0' ≤ c && c ≤ '9' then
    some (c.toNat - '0'.toNat)
  else if 'a' ≤ c && c ≤ 'f' then
    some (c.toNat - 'a'.toNat + 10)
  else if 'A' ≤ c && c ≤ 'F' then
    some (c.toNat - 'A'.toNat + 10)
  else
    none

/- A code unit of four hexadecimal digits. -/
def unit? :
    List Char → Option Nat
  | [a, b, c, d] => do
      let a ← hexDigit? a
      let b ← hexDigit? b
      let c ← hexDigit? c
      let d ← hexDigit? d
      return ((a * 16 + b) * 16 + c) * 16 + d
  | _ => none

/- The character of an escape with one letter. -/
def shortEscape? :
    Char → Option Char
  | '"' => some '"'
  | '\\' => some '\\'
  | '/' => some '/'
  | 'b' => some (Char.ofNat 8)
  | 'f' => some (Char.ofNat 12)
  | 'n' => some '\n'
  | 'r' => some '\r'
  | 't' => some '\t'
  | _ => none

/- A code unit that begins a pair. -/
def isHighUnit
    (n : Nat) :
    Bool :=
  0xd800 ≤ n && n < 0xdc00

/- A code unit that ends a pair. -/
def isLowUnit
    (n : Nat) :
    Bool :=
  0xdc00 ≤ n && n < 0xe000

/-
  A part of a string: a character, or a code unit that may
  have a partner.
-/
inductive Unit where
  | char (c : Char)
  | code (n : Nat)

/- The character that a part is, unless it is a code unit. -/
def Unit.char? :
    Unit → Option Char
  | char c => some c
  | code _ => none

/- A code unit without a partner is half of a character or one. -/
def single
    (n : Nat) :
    Unit :=
  if isHighUnit n || isLowUnit n then
    .code n
  else
    .char (Char.ofNat n)

/- Join the code units of pairs. -/
def joinUnits :
    List Unit → List Unit
  | [] => []
  | .char c :: rest => .char c :: joinUnits rest
  | .code a :: .code b :: rest =>
      if isHighUnit a && isLowUnit b then
        .char (Char.ofNat
          (0x10000 + (a - 0xd800) * 0x400 + (b - 0xdc00))) ::
          joinUnits rest
      else
        single a :: joinUnits (.code b :: rest)
  | .code a :: rest => single a :: joinUnits rest

/- A part of a string as a message shows it. -/
def Unit.shown
    (mark : Char) :
    Unit → List Char
  | char c => Text.escaped mark c
  | code n => '\\' :: 'u' :: Text.hexDigits 4 n

/- A text with halves of characters, as a message shows it. -/
def shownUnits
    (units : List Unit) :
    List Char :=
  let mark := Text.quoteMark (units.filterMap Unit.char?)
  mark :: units.flatMap (Unit.shown mark) ++ [mark]

/- The text of parts, which may be a name. -/
def keyOf
    (units : List Unit) :
    Key :=
  match units.mapM Unit.char? with
  | some text => .text (String.ofList text)
  | none => .other (String.ofList (shownUnits units)) 0

/-
  The characters up to the closing quote, the last one first,
  and the text behind it.
-/
def stringFrom
    (done : List Unit) :
    List Char → Option (List Unit × List Char)
  | [] => none
  | '"' :: rest => some (done, rest)
  | '\\' :: 'u' :: a :: b :: c :: d :: rest =>
      match unit? [a, b, c, d] with
      | some n => stringFrom (.code n :: done) rest
      | none => none
  | '\\' :: c :: rest =>
      match shortEscape? c with
      | some c => stringFrom (.char c :: done) rest
      | none => none
  | c :: rest =>
      if c = '\\' || c.toNat < 0x20 then
        none
      else
        stringFrom (.char c :: done) rest

/- The string behind its opening quote. -/
def string
    (text : List Char) :
    Except JsonFault (Key × List Char) :=
  match stringFrom [] text with
  | some (units, rest) =>
      .ok (keyOf (joinUnits units.reverse), rest)
  | none => .error .malformed

end Json

end Spreadsheet

------------------------------------------------------------
-- Numbers
------------------------------------------------------------

namespace Spreadsheet

namespace Json

/- The digits that a text starts with. -/
def digitsOf
    (text : List Char) :
    List Char × List Char :=
  (text.takeWhile Text.isAsciiDigit,
    text.dropWhile Text.isAsciiDigit)

/- The digits behind a point, if there is one with digits. -/
def fraction
    (text : List Char) :
    List Char × List Char :=
  match text with
  | '.' :: rest =>
      let (digits, behind) := digitsOf rest
      if digits.isEmpty then ([], text) else (digits, behind)
  | _ => ([], text)

/- The digits behind an optional sign. -/
def signedDigits
    (text : List Char) :
    Bool × List Char × List Char :=
  match text with
  | '-' :: rest => (true, digitsOf rest)
  | '+' :: rest => (false, digitsOf rest)
  | _ => (false, digitsOf text)

/- The exponent that a text starts with, if any. -/
def exponent
    (text : List Char) :
    Option Int × List Char :=
  match text with
  | c :: rest =>
      if c = 'e' || c = 'E' then
        let (negative, digits, behind) := signedDigits rest
        if digits.isEmpty then
          (none, text)
        else
          let size : Int := Text.decimalValue digits
          (some (if negative then -size else size), behind)
      else
        (none, text)
  | [] => (none, text)

/- The digits of the whole part: a zero stands alone. -/
def wholePart
    (text : List Char) :
    List Char × List Char :=
  match text with
  | '0' :: rest => (['0'], rest)
  | _ => digitsOf text

/- A number without its sign. -/
def unsigned
    (negative : Bool)
    (text : List Char) :
    Except JsonFault (Document Key × List Char) :=
  let (digits, rest) := wholePart text
  let (places, rest) := fraction rest
  let (power?, rest) := exponent rest
  if digits.isEmpty then
    .error .malformed
  else if places.isEmpty && power?.isNone then
    if Text.longestNumeral < digits.length then
      .error (.tooManyDigits digits.length)
    else
      let size : Int := Text.decimalValue digits
      .ok (.whole (if negative then -size else size), rest)
  else
    let size := Text.decimalValue (digits ++ places)
    let power := power?.getD 0 - places.length
    .ok (.float (Number.ofDecimal negative size power), rest)

/- An infinite number. -/
def infinite
    (negative : Bool) :
    Document Key :=
  .float (if negative then -1.0 / 0.0 else 1.0 / 0.0)

/- A number. -/
def number
    (text : List Char) :
    Except JsonFault (Document Key × List Char) :=
  match text with
  | '-' :: rest =>
      match afterWord? "Infinity".toList rest with
      | some rest => .ok (infinite true, rest)
      | none => unsigned true rest
  | _ => unsigned false text

end Json

end Spreadsheet

------------------------------------------------------------
-- Values
------------------------------------------------------------

namespace Spreadsheet

namespace Json

/- The words that stand for documents. -/
def words : List (List Char × Document Key) :=
  [
    ("null".toList, .null),
    ("true".toList, .truth true),
    ("false".toList, .truth false),
    ("NaN".toList, .float (0.0 / 0.0)),
    ("Infinity".toList, infinite false)
  ]

/- A word or a number. -/
def scalar
    (text : List Char) :
    Except JsonFault (Document Key × List Char) :=
  match words.findSome? fun entry =>
      (afterWord? entry.1 text).map fun rest =>
        (entry.2, rest) with
  | some found => .ok found
  | none => number text

mutual

/-
  A document in front of a text.  The fuel bounds the number
  of parts and is not used up by a text of that length.
-/
def value :
    (fuel : Nat) → List Char →
      Except JsonFault (Document Key × List Char)
  | 0, _ => .error .malformed
  | fuel + 1, text =>
      match text with
      | '"' :: rest => do
          let (name, rest) ← string rest
          return (name.toDocument, rest)
      | '[' :: rest =>
          match skipBlanks rest with
          | ']' :: rest => .ok (.list [], rest)
          | rest => items fuel [] rest
      | '{' :: rest =>
          match skipBlanks rest with
          | '}' :: rest => .ok (.map [], rest)
          | rest => entries fuel [] rest
      | _ => scalar text

/- The items of a list behind the ones read, last one first. -/
def items :
    (fuel : Nat) → List (Document Key) → List Char →
      Except JsonFault (Document Key × List Char)
  | 0, _, _ => .error .malformed
  | fuel + 1, done, text => do
      let (item, rest) ← value fuel text
      match skipBlanks rest with
      | ',' :: rest =>
          items fuel (item :: done) (skipBlanks rest)
      | ']' :: rest =>
          return (.list (item :: done).reverse, rest)
      | _ => throw .malformed

/- The entries of a map behind the ones read, last one first. -/
def entries :
    (fuel : Nat) → Entries Key → List Char →
      Except JsonFault (Document Key × List Char)
  | 0, _, _ => .error .malformed
  | fuel + 1, done, text =>
      match text with
      | '"' :: rest => do
          let (name, rest) ← string rest
          match skipBlanks rest with
          | ':' :: rest =>
              let (document, rest) ←
                value fuel (skipBlanks rest)
              let done := (name, document) :: done
              match skipBlanks rest with
              | ',' :: rest =>
                  entries fuel done (skipBlanks rest)
              | '}' :: rest =>
                  return (.map (Entries.ofList done.reverse),
                    rest)
              | _ => throw .malformed
          | _ => throw .malformed
      | _ => .error .malformed

end

end Json

/- The document that a text is. -/
def Document.ofJson
    (text : List Char) :
    Except JsonFault (Document Key) := do
  let (document, rest) ←
    Json.value (text.length + 1) (Json.skipBlanks text)
  if (Json.skipBlanks rest).isEmpty then
    return document
  else
    throw .malformed

end Spreadsheet
