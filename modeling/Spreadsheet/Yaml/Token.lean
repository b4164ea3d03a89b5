import Spreadsheet.Text.Utf8
import Spreadsheet.Yaml.Cursor

/-
  Tokens of a YAML text.

  Tokens are the indicators of structure, names and scalars.
  Names are those of anchors and tags; scalars are read for
  their text here, with all lines folded and all escapes
  replaced.

  Key definitions include:
    * `Spreadsheet.YamlFault`
    * `Spreadsheet.Yaml.Token`
    * `Spreadsheet.Yaml.name`
    * `Spreadsheet.Yaml.tag`
    * `Spreadsheet.Yaml.directive`
-/

------------------------------------------------------------
-- Tokens
------------------------------------------------------------

namespace Spreadsheet

/-
  Why a text is no YAML document: it cannot be read, which
  ends the program; a number has too many digits; or a scalar
  is not of the form that its tag asks for.
-/
inductive YamlFault where
  | malformed
  | tooManyDigits (digits : Nat)
  | invalid (message : String)
deriving DecidableEq, Repr

namespace Yaml

/- A remark about the text that follows. -/
inductive Directive where
  | version (major minor : Nat)
  | tag (handle expansion : List Char)
  | other
deriving DecidableEq, Repr

/- The parts that a text consists of. -/
inductive Token where
  | directive (directive : Directive)
  | documentStart
  | documentEnd
  | streamEnd
  | blockSequenceStart
  | blockMappingStart
  | blockEnd
  | flowSequenceStart
  | flowSequenceEnd
  | flowMappingStart
  | flowMappingEnd
  | blockEntry
  | flowEntry
  | key
  | value
  | alias (name : List Char)
  | anchor (name : List Char)
  | tag (handle : Option (List Char)) (suffix : List Char)
  | scalar (text : List Char) (plain : Bool)
deriving DecidableEq, Repr

end Yaml

end Spreadsheet

------------------------------------------------------------
-- Names
------------------------------------------------------------

namespace Spreadsheet

namespace Yaml

/- An ASCII letter or digit. -/
def isAlphanumeric
    (c : Char) :
    Bool :=
  ('0' ≤ c && c ≤ '9') || ('A' ≤ c && c ≤ 'Z') ||
    ('a' ≤ c && c ≤ 'z')

/- A character of a name. -/
def isNamePart
    (c : Char) :
    Bool :=
  isAlphanumeric c || c = '-' || c = '_'

/- A character of an address. -/
def isAddressPart
    (c : Char) :
    Bool :=
  isAlphanumeric c ||
    "-;/?:@&=+$,_.!~*'()[]".toList.contains c

/- A name that is not empty. -/
def name
    (cursor : Cursor) :
    Except YamlFault (List Char × Cursor) :=
  let (found, cursor) := cursor.span isNamePart
  if found.isEmpty then
    .error .malformed
  else
    .ok (found, cursor)

/- What may follow the name of an anchor. -/
def endsAnchor
    (next : Option Char) :
    Bool :=
  endsWord next ||
    next.any fun c => "?:,]\x7d%@".toList.contains c ||
      c.toNat = 0x60

/- The name of an anchor or an alias behind its indicator. -/
def anchorName
    (cursor : Cursor) :
    Except YamlFault (List Char × Cursor) := do
  let (found, cursor) ← name cursor.step
  if endsAnchor cursor.next? then
    return (found, cursor)
  else
    throw .malformed

/- The value of a hexadecimal digit. -/
def hexDigit?
    (c : Char) :
    Option Nat :=
  if '0' ≤ c && c ≤ '9' then
    some (c.toNat - '0'.toNat)
  else if 'a' ≤ c && c ≤ 'f' then
    some (c.toNat - 'a'.toNat + 10)
  else if 'A' ≤ c && c ≤ 'F' then
    some (c.toNat - 'A'.toNat + 10)
  else
    none

/- The number of hexadecimal digits. -/
def hexNumber?
    (digits : List Char) :
    Option Nat :=
  digits.foldlM
    (fun n c => (hexDigit? c).map fun d => n * 16 + d) 0

/- The bytes of escapes in an address, and what follows. -/
def escapedBytes? :
    List Char → Option (List UInt8 × List Char)
  | '%' :: a :: b :: rest => do
      let byte ← hexNumber? [a, b]
      let (bytes, rest) ← escapedBytes? rest
      return (byte.toUInt8 :: bytes, rest)
  | '%' :: _ => none
  | rest => some ([], rest)

/-
  The characters of an address that a text starts with, the
  escapes replaced.  Escapes have to be well-formed bytes.
-/
def addressFrom :
    (fuel : Nat) → List Char →
      Except YamlFault (List Char × List Char)
  | 0, text => .ok ([], text)
  | fuel + 1, text =>
      match text with
      | '%' :: _ =>
          match escapedBytes? text with
          | some (bytes, rest) => do
              let found := Text.decode bytes
              if found.contains Text.replacement then
                throw .malformed
              let (more, rest) ← addressFrom fuel rest
              return (found ++ more, rest)
          | none => .error .malformed
      | c :: rest =>
          if isAddressPart c then do
            let (more, rest) ← addressFrom fuel rest
            return (c :: more, rest)
          else
            .ok ([], text)
      | [] => .ok ([], [])

/- An address that is not empty. -/
def address
    (cursor : Cursor) :
    Except YamlFault (List Char × Cursor) := do
  let text := cursor.rest
  let (found, rest) ← addressFrom text.length text
  if found.isEmpty then
    throw .malformed
  return (found, cursor.advance (text.length - rest.length))

end Yaml

end Spreadsheet

------------------------------------------------------------
-- Tags And Directives
------------------------------------------------------------

namespace Spreadsheet

namespace Yaml

/- The handle of a tag: one mark, or a name between two. -/
def tagHandle
    (cursor : Cursor) :
    Except YamlFault (List Char × Cursor) :=
  if !cursor.isAt '!' then
    .error .malformed
  else
    let behind := cursor.step
    if behind.isAt ' ' then
      .ok (['!'], behind)
    else
      let (found, behind) := behind.span isNamePart
      if behind.isAt '!' then
        .ok ('!' :: found ++ ['!'], behind.step)
      else
        .error .malformed

/- A tag has a second mark before the next space. -/
def hasHandle
    (cursor : Cursor) :
    Bool :=
  let found := cursor.step.rest.takeWhile fun c =>
    c ≠ ' ' && !isBreak c
  found.contains '!'

/- A tag without the test of what follows it. -/
def tagBody
    (cursor : Cursor) :
    Except YamlFault (Token × Cursor) := do
  if cursor.peek? 1 = some '<' then
    let (suffix, cursor) ← address (cursor.advance 2)
    if cursor.isAt '>' then
      return (.tag none suffix, cursor.step)
    else
      throw .malformed
  else if endsWord (cursor.peek? 1) then
    return (.tag none ['!'], cursor.step)
  else if hasHandle cursor then
    let (handle, cursor) ← tagHandle cursor
    let (suffix, cursor) ← address cursor
    return (.tag (some handle) suffix, cursor)
  else
    let (suffix, cursor) ← address cursor.step
    return (.tag (some ['!']) suffix, cursor)

/- A tag. -/
def tag
    (cursor : Cursor) :
    Except YamlFault (Token × Cursor) := do
  let (token, cursor) ← tagBody cursor
  if endsLineOrSpace cursor.next? then
    return (token, cursor)
  else
    throw .malformed

/- A number of a version. -/
def versionNumber
    (cursor : Cursor) :
    Except YamlFault (Nat × Cursor) :=
  let (digits, cursor) :=
    cursor.span fun c => '0' ≤ c && c ≤ '9'
  if digits.isEmpty then
    .error .malformed
  else if Text.longestNumeral < digits.length then
    .error (.tooManyDigits digits.length)
  else
    .ok (Text.decimalValue digits, cursor)

/- A version: two numbers around a point. -/
def version
    (cursor : Cursor) :
    Except YamlFault (Directive × Cursor) := do
  let (major, cursor) ← versionNumber cursor.skipSpaces
  if !cursor.isAt '.' then
    throw .malformed
  let (minor, cursor) ← versionNumber cursor.step
  if endsLineOrSpace cursor.next? then
    return (.version major minor, cursor)
  else
    throw .malformed

/- What a handle of tags stands for. -/
def tagDirective
    (cursor : Cursor) :
    Except YamlFault (Directive × Cursor) := do
  let (handle, cursor) ← tagHandle cursor.skipSpaces
  if !cursor.isAt ' ' then
    throw .malformed
  let (expansion, cursor) ← address cursor.skipSpaces
  if endsLineOrSpace cursor.next? then
    return (.tag handle expansion, cursor)
  else
    throw .malformed

/- The rest of a line that holds at most a comment. -/
def restOfLine
    (cursor : Cursor) :
    Except YamlFault Cursor :=
  let cursor := cursor.skipSpaces.skipComment
  if endsLine cursor.next? then
    .ok cursor.lineBreak.2
  else
    .error .malformed

/- A directive. -/
def directive
    (cursor : Cursor) :
    Except YamlFault (Token × Cursor) := do
  let (found, cursor) ← name cursor.step
  if !endsLineOrSpace cursor.next? then
    throw .malformed
  let (directive, cursor) ←
    if found = "YAML".toList then
      version cursor
    else if found = "TAG".toList then
      tagDirective cursor
    else
      pure (.other, cursor.skip fun c => !isBreak c)
  return (.directive directive, ← restOfLine cursor)

end Yaml

end Spreadsheet
