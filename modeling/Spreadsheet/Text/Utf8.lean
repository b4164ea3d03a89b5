import Spreadsheet.Text.Digit
import Spreadsheet.Text.Quoted

/-
  Text as bytes.

  Bytes that are not well-formed are read as replacement
  characters, one for each longest beginning of a well-formed
  sequence, so every sequence of bytes can be read.  Where no
  replacement is wanted, the first such bytes are the fault.

  Key definitions include:
    * `Spreadsheet.Text.encodeChar`
    * `Spreadsheet.Text.encode`
    * `Spreadsheet.Text.decode`
    * `Spreadsheet.Text.DecodingFault`
    * `Spreadsheet.Text.ofBytes`
-/

------------------------------------------------------------
-- Writing
------------------------------------------------------------

namespace Spreadsheet

namespace Text

/- The bytes of one character. -/
def encodeChar
    (c : Char) :
    List UInt8 :=
  let n := c.toNat
  if n < 0x80 then
    [n.toUInt8]
  else if n < 0x800 then
    [(0xc0 + n / 0x40).toUInt8,
      (0x80 + n % 0x40).toUInt8]
  else if n < 0x10000 then
    [(0xe0 + n / 0x1000).toUInt8,
      (0x80 + n / 0x40 % 0x40).toUInt8,
      (0x80 + n % 0x40).toUInt8]
  else
    [(0xf0 + n / 0x40000).toUInt8,
      (0x80 + n / 0x1000 % 0x40).toUInt8,
      (0x80 + n / 0x40 % 0x40).toUInt8,
      (0x80 + n % 0x40).toUInt8]

/- The bytes of a text. -/
def encode
    (text : List Char) :
    List UInt8 :=
  text.flatMap encodeChar

end Text

end Spreadsheet

------------------------------------------------------------
-- Reading
------------------------------------------------------------

namespace Spreadsheet

namespace Text

/- The character that stands for bytes that are none. -/
def replacement : Char := Char.ofNat 0xfffd

/-
  What has been read of a character: the value so far, the
  number of bytes still to come and the range of the next.
-/
structure PartialChar where
  value : Nat
  missing : Nat
  low : Nat
  high : Nat

/-
  Begin a character.  The ranges of the second byte leave out
  overlong forms, surrogates and values beyond the last code
  point.
-/
def PartialChar.start?
    (byte : Nat) :
    Option PartialChar :=
  if 0xc2 ≤ byte ∧ byte ≤ 0xdf then
    some ⟨byte - 0xc0, 1, 0x80, 0xbf⟩
  else if byte = 0xe0 then
    some ⟨0, 2, 0xa0, 0xbf⟩
  else if byte = 0xed then
    some ⟨0xd, 2, 0x80, 0x9f⟩
  else if 0xe1 ≤ byte ∧ byte ≤ 0xef then
    some ⟨byte - 0xe0, 2, 0x80, 0xbf⟩
  else if byte = 0xf0 then
    some ⟨0, 3, 0x90, 0xbf⟩
  else if byte = 0xf4 then
    some ⟨4, 3, 0x80, 0x8f⟩
  else if 0xf1 ≤ byte ∧ byte ≤ 0xf3 then
    some ⟨byte - 0xf0, 3, 0x80, 0xbf⟩
  else
    none

/- Read a byte outside any character. -/
def decodeFresh
    (byte : Nat) :
    List Char × Option PartialChar :=
  if byte < 0x80 then
    ([Char.ofNat byte], none)
  else
    match PartialChar.start? byte with
    | some begun => ([], some begun)
    | none => ([replacement], none)

/- Read a byte in the state that the bytes before it left. -/
def decodeByte
    (state : Option PartialChar)
    (byte : Nat) :
    List Char × Option PartialChar :=
  match state with
  | none => decodeFresh byte
  | some begun =>
      if begun.low ≤ byte ∧ byte ≤ begun.high then
        let value := begun.value * 0x40 + (byte - 0x80)
        if begun.missing ≤ 1 then
          ([Char.ofNat value], none)
        else
          ([], some ⟨value, begun.missing - 1, 0x80, 0xbf⟩)
      else
        let fresh := decodeFresh byte
        (replacement :: fresh.1, fresh.2)

/-
  What bytes have been read as: the characters so far, the
  last one first, and a character that is not complete.
-/
structure Decoding where
  done : List Char
  state : Option PartialChar

namespace Decoding

/- Nothing was read. -/
def start : Decoding := ⟨[], none⟩

/- Read one byte. -/
def read
    (decoding : Decoding)
    (byte : UInt8) :
    Decoding :=
  let step := decodeByte decoding.state byte.toNat
  ⟨step.1.reverse ++ decoding.done, step.2⟩

/- The text at the end of the bytes. -/
def finish
    (decoding : Decoding) :
    List Char :=
  match decoding.state with
  | none => decoding.done.reverse
  | some _ => (replacement :: decoding.done).reverse

end Decoding

/- The text that bytes stand for. -/
def decode
    (bytes : List UInt8) :
    List Char :=
  (bytes.foldl Decoding.read Decoding.start).finish

end Text

end Spreadsheet

------------------------------------------------------------
-- Reading Without Replacement
------------------------------------------------------------

namespace Spreadsheet

namespace Text

/-
  Why bytes are no character: none starts so, none goes on so,
  or there is no more of it.
-/
inductive DecodingObstacle where
  | start
  | continuation
  | ending
deriving DecidableEq, Repr

/- Bytes that are no character, and where they are. -/
structure DecodingFault where
  obstacle : DecodingObstacle
  place : Nat
  bytes : List UInt8
deriving DecidableEq, Repr

namespace DecodingObstacle

/- The words for an obstacle. -/
def message :
    DecodingObstacle → String
  | start => "invalid start byte"
  | continuation => "invalid continuation byte"
  | ending => "unexpected end of data"

end DecodingObstacle

namespace DecodingFault

/- The bytes at fault in words, with their places. -/
def subject
    (fault : DecodingFault) :
    List Char :=
  match fault.bytes with
  | [byte] =>
      "byte 0x".toList ++ hexDigits 2 byte.toNat ++
        " in position ".toList ++ decimal fault.place
  | bytes =>
      "bytes in position ".toList ++ decimal fault.place ++
        '-' :: decimal (fault.place + bytes.length - 1)

/- The message of bytes that are no text. -/
def message
    (fault : DecodingFault) :
    String :=
  "'utf-8' codec can't decode " ++
    String.ofList fault.subject ++ ": " ++
    fault.obstacle.message

end DecodingFault

/- Why a byte cannot be read in a state, if it cannot. -/
def obstacle?
    (state : Option PartialChar)
    (byte : Nat) :
    Option DecodingObstacle :=
  match state with
  | none =>
      if byte < 0x80 ∨ (PartialChar.start? byte).isSome then
        none
      else
        some .start
  | some begun =>
      if begun.low ≤ byte ∧ byte ≤ begun.high then
        none
      else
        some .continuation

/-
  The text of bytes behind those of a character that is not
  complete.  The place is that of its first byte, or of the
  next one if none is begun.
-/
def ofBytesFrom
    (place : Nat)
    (begun : List UInt8)
    (state : Option PartialChar) :
    List UInt8 → Except DecodingFault (List Char)
  | [] =>
      if begun.isEmpty then
        .ok []
      else
        .error ⟨.ending, place, begun⟩
  | byte :: rest =>
      match obstacle? state byte.toNat with
      | some .start => .error ⟨.start, place, [byte]⟩
      | some obstacle => .error ⟨obstacle, place, begun⟩
      | none =>
          let (found, state) := decodeByte state byte.toNat
          let begun := begun ++ [byte]
          if state.isSome then
            ofBytesFrom place begun state rest
          else
            (ofBytesFrom (place + begun.length) [] none rest).map
              (found ++ ·)

/- The text that bytes are, if they are well-formed. -/
def ofBytes
    (bytes : List UInt8) :
    Except DecodingFault (List Char) :=
  ofBytesFrom 0 [] none bytes

end Text

end Spreadsheet
