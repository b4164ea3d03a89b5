import Spreadsheet.Function.Call
import Spreadsheet.Text.Blank
import Spreadsheet.Text.Case
import Spreadsheet.Text.Search

/-
  Text functions.

  Positions and lengths count characters, and the first
  character has position one.

  Key definitions include:
    * `Spreadsheet.Call.size`
    * `Spreadsheet.Call.start`
    * `Spreadsheet.Call.left`
    * `Spreadsheet.Call.mid`
    * `Spreadsheet.Call.substitute`
    * `Spreadsheet.Call.locate`
    * `Spreadsheet.Text.outgrows`
    * `Spreadsheet.Text.repeated`
-/

------------------------------------------------------------
-- Lengths
------------------------------------------------------------

namespace Spreadsheet

namespace Text

/- The bytes that each character takes: those of the widest. -/
def width
    (text : List Char) :
    Nat :=
  if text.all (·.toNat < 0x100) then
    1
  else if text.all (·.toNat < 0x10000) then
    2
  else
    4

/-
  A text takes more bytes than lengths can tell once each
  occurrence of one text in it is replaced by a text of
  another length.
-/
def outgrows
    (old new text : List Char) :
    Bool :=
  let replaced := replaceAll old new text
  replaced.length ≠ text.length &&
    lengthLimit ≤
      replaced.length * max (width text) (width new)

/- A text several times over. -/
def repeated
    (text : List Char)
    (count : Nat) :
    List Char :=
  (List.replicate count text).flatten

end Text

end Spreadsheet

------------------------------------------------------------
-- Counts And Positions
------------------------------------------------------------

namespace Spreadsheet

namespace Call

/- A number of characters, without its fractional part. -/
def size
    (call : Call)
    (index : Nat)
    (missing : Value) :
    Except Failure Nat := do
  let x ← call.numberOr index missing
  match Number.truncate? x with
  | some n =>
      if x < 0.0 then
        throw (.invalidCount call.function x)
      return n.toNat
  | none => throw (.invalidCount call.function x)

/- The number of characters in front of a position. -/
def start
    (call : Call)
    (index : Nat) :
    Except Failure Nat := do
  let x ← call.numberOr index (.number 1.0)
  match Number.truncate? x with
  | some n =>
      if x < 1.0 then
        throw (.invalidStart call.function x)
      return (n - 1).toNat
  | none => throw (.invalidStart call.function x)

end Call

end Spreadsheet

------------------------------------------------------------
-- Parts Of A Text
------------------------------------------------------------

namespace Spreadsheet

namespace Value

/- Characters as a value. -/
def ofChars
    (text : List Char) :
    Value :=
  .text (String.ofList text)

end Value

namespace Call

/- The characters of an argument. -/
def chars
    (call : Call)
    (index : Nat) :
    Except Failure (List Char) :=
  (call.word index).map String.toList

/- The length of a text. -/
def len
    (call : Call) :
    Except Failure Value := do
  return .number (Number.ofInt (← call.chars 0).length)

/- The first characters of a text. -/
def left
    (call : Call) :
    Except Failure Value := do
  let text ← call.chars 0
  let count ← call.size 1 (.number 1.0)
  return .ofChars (text.take count)

/- The last characters of a text. -/
def right
    (call : Call) :
    Except Failure Value := do
  let text ← call.chars 0
  let count ← call.size 1 (.number 1.0)
  return .ofChars (Text.lastChars text count)

/- Characters of a text from a position on. -/
def mid
    (call : Call) :
    Except Failure Value := do
  let text ← call.chars 0
  let start ← call.start 1
  let count ← call.size 2 .empty
  return .ofChars (Text.slice text start count)

end Call

end Spreadsheet

------------------------------------------------------------
-- Other Forms Of A Text
------------------------------------------------------------

namespace Spreadsheet

namespace Call

/- A text in upper case. -/
def upper
    (call : Call) :
    Except Failure Value := do
  return .ofChars (Text.upper (← call.chars 0))

/- A text in lower case. -/
def lower
    (call : Call) :
    Except Failure Value := do
  return .ofChars (Text.lower (← call.chars 0))

/- A text without white space around it. -/
def trim
    (call : Call) :
    Except Failure Value := do
  return .ofChars (Text.trim (← call.chars 0))

/- The texts of all values, one behind the other. -/
def concatenate
    (call : Call) :
    Except Failure Value :=
  .ok (.text (String.join (call.values.map Value.toText)))

/- The number of characters that the texts have together. -/
def joinedLength
    (call : Call) :
    Nat :=
  call.values.foldr
    (fun value length => value.toText.length + length)
    0

/- A text, a text to replace in it and one to put instead. -/
def replacing
    (call : Call) :
    Except Failure (List Char × List Char × List Char) := do
  let text ← call.chars 0
  let old ← call.chars 1
  let new ← call.chars 2
  return (text, old, new)

/- A text with every occurrence of one text replaced. -/
def substitute
    (call : Call) :
    Except Failure Value := do
  let (text, old, new) ← call.replacing
  return .ofChars (Text.replaceAll old new text)

/- A value as a text; the format does not count. -/
def text
    (call : Call) :
    Except Failure Value := do
  return .text (← call.word 0)

/- A value as a number. -/
def value
    (call : Call) :
    Except Failure Value := do
  return .number (← call.number 0)

end Call

end Spreadsheet

------------------------------------------------------------
-- Occurrences
------------------------------------------------------------

namespace Spreadsheet

namespace Call

/- The position of a text in another, both in some form. -/
def locate
    (form : List Char → List Char)
    (call : Call) :
    Except Failure Value := do
  let needle ← call.chars 0
  let hay ← call.chars 1
  let start ← call.start 2
  let needle := form needle
  match Text.findFrom? needle (form hay) start with
  | some offset =>
      return .number (Number.ofInt (offset + 1))
  | none =>
      throw (.notFound call.function (String.ofList needle))

/- The position of a text in another. -/
def find
    (call : Call) :
    Except Failure Value :=
  call.locate id

/- The position of a text in another in either case. -/
def search
    (call : Call) :
    Except Failure Value :=
  call.locate Text.lower

end Call

end Spreadsheet
