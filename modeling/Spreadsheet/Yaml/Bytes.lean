import Spreadsheet.Text.Quoted
import Spreadsheet.Yaml.Token

/-
  Bytes in YAML.

  Bytes are written in base 64, four characters for three of
  them.  Characters that are none of these are passed over,
  and fewer than four are filled up by equals signs, behind
  which nothing is read.

  Key definitions include:
    * `Spreadsheet.Yaml.bytes`
    * `Spreadsheet.Yaml.shownBytes`
-/

------------------------------------------------------------
-- Base 64
------------------------------------------------------------

namespace Spreadsheet

namespace Yaml

/- The digits of base 64, in order. -/
def base64Digits : List Char :=
  "ABCDEFGHIJKLMNOPQRSTUVWXYZ".toList ++
    "abcdefghijklmnopqrstuvwxyz".toList ++
    "0123456789+/".toList

/- The bytes that two to four digits hold. -/
def groupBytes :
    List Nat → List Nat
  | [a, b] => [a * 4 + b / 16]
  | [a, b, c] => [a * 4 + b / 16, b % 16 * 16 + c / 4]
  | [a, b, c, d] =>
      [a * 4 + b / 16, b % 16 * 16 + c / 4, c % 4 * 64 + d]
  | _ => []

/-
  The bytes behind some digits of a group and a number of
  equals signs.
-/
def bytesFrom :
    (group : List Nat) → (signs : Nat) → List Char →
      Except YamlFault (List Nat)
  | group, _, [] =>
      if group.isEmpty then .ok [] else .error .malformed
  | group, signs, c :: rest =>
      if c = '=' then
        if group.length < 2 then
          bytesFrom group signs rest
        else if group.length + signs < 3 then
          bytesFrom group (signs + 1) rest
        else
          .ok (groupBytes group)
      else
        match base64Digits.idxOf? c with
        | none => bytesFrom group signs rest
        | some digit =>
            if group.length < 3 then
              bytesFrom (group ++ [digit]) 0 rest
            else
              (bytesFrom [] 0 rest).map
                (groupBytes (group ++ [digit]) ++ ·)

/- The bytes that a text of ASCII characters is. -/
def bytes
    (text : List Char) :
    Except YamlFault (List Nat) :=
  if text.all (·.toNat < 0x80) then
    bytesFrom [] 0 text
  else
    .error .malformed

end Yaml

end Spreadsheet

------------------------------------------------------------
-- Bytes In Messages
------------------------------------------------------------

namespace Spreadsheet

namespace Yaml

/- A byte as it is shown between quotes. -/
def shownByte
    (mark : Char)
    (byte : Nat) :
    List Char :=
  if byte < 0x7F then
    Text.escaped mark (Char.ofNat byte)
  else
    '\\' :: 'x' :: Text.hexDigits 2 byte

/- Bytes as a message shows them. -/
def shownBytes
    (bytes : List Nat) :
    String :=
  let mark := Text.quoteMark (bytes.map Char.ofNat)
  String.ofList
    ('b' :: mark :: bytes.flatMap (shownByte mark) ++ [mark])

end Yaml

end Spreadsheet
