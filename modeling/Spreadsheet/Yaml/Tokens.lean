import Spreadsheet.Yaml.Scalar

/-
  The tokens of a YAML text, in order.

  Indentation opens and closes blocks.  A colon makes a key of
  what stands in front of it on the line; the tokens that say
  so are put in front of the key then, so every place where a
  key could start is remembered while its line lasts.

  Key definitions include:
    * `Spreadsheet.Yaml.KeyPlace`
    * `Spreadsheet.Yaml.Scan`
    * `Spreadsheet.Yaml.Scan.fetch`
    * `Spreadsheet.Yaml.tokens`
-/

------------------------------------------------------------
-- Scans
------------------------------------------------------------

namespace Spreadsheet

namespace Yaml

/-
  A place where a key could start: how many brackets are open
  there, the number of tokens in front, where it is, and
  whether it must be a key.
-/
structure KeyPlace where
  depth : Nat
  number : Nat
  required : Bool
  cursor : Cursor

/-
  What was read of a text: the tokens, the last one first and
  counted; the open brackets; the columns of the open blocks,
  the innermost one first; whether a key could start here and
  where others could have started.
-/
structure Scan where
  cursor : Cursor
  tokens : List Token
  count : Nat
  depth : Nat
  indent : Int
  outer : List Int
  allowsKey : Bool
  places : List KeyPlace

namespace Scan

/- A scan at the start of a text. -/
def start
    (text : List Char) :
    Scan :=
  {
    cursor := .start text
    tokens := []
    count := 0
    depth := 0
    indent := -1
    outer := []
    allowsKey := true
    places := []
  }

/- The column of the next character. -/
def column
    (scan : Scan) :
    Int :=
  scan.cursor.column

/- Brackets are open. -/
def inFlow
    (scan : Scan) :
    Bool :=
  0 < scan.depth

/- Add a token. -/
def add
    (scan : Scan)
    (token : Token) :
    Scan :=
  {
    scan with
    tokens := token :: scan.tokens
    count := scan.count + 1
  }

/- Add a token and go on behind it. -/
def addBehind
    (scan : Scan)
    (token : Token)
    (cursor : Cursor) :
    Scan :=
  { scan.add token with cursor }

/- Add a token that takes up characters. -/
def take
    (scan : Scan)
    (token : Token)
    (length : Nat) :
    Scan :=
  scan.addBehind token (scan.cursor.advance length)

/- Add a token in front of all but the first ones. -/
def insert
    (scan : Scan)
    (number : Nat)
    (token : Token) :
    Scan :=
  let behind := scan.tokens.take (scan.count - number)
  let front := scan.tokens.drop (scan.count - number)
  {
    scan with
    tokens := behind ++ token :: front
    count := scan.count + 1
  }

/- Say whether a key can start here. -/
def allowing
    (scan : Scan)
    (allowsKey : Bool) :
    Scan :=
  { scan with allowsKey }

end Scan

end Yaml

end Spreadsheet

------------------------------------------------------------
-- Places Of Keys
------------------------------------------------------------

namespace Spreadsheet

namespace Yaml

/- Characters that a key on one line may have. -/
def longestKey : Nat := 1024

/- A place of a key is too far behind a cursor. -/
def KeyPlace.isStale
    (cursor : Cursor)
    (place : KeyPlace) :
    Bool :=
  place.cursor.line != cursor.line ||
    longestKey < cursor.offset - place.cursor.offset

namespace Scan

/- Drop places; none of them may be one of a required key. -/
def dropPlaces
    (scan : Scan)
    (dropped : KeyPlace → Bool) :
    Except YamlFault Scan :=
  if scan.places.any fun place =>
      dropped place && place.required then
    .error .malformed
  else
    .ok {
      scan with
      places := scan.places.filter fun place => !dropped place
    }

/- Drop the places that are too far behind. -/
def dropStale
    (scan : Scan) :
    Except YamlFault Scan :=
  scan.dropPlaces (KeyPlace.isStale scan.cursor)

/- Drop the place between the innermost brackets. -/
def dropPlace
    (scan : Scan) :
    Except YamlFault Scan :=
  scan.dropPlaces fun place => place.depth == scan.depth

/- Remember this place if a key can start here. -/
def savePlace
    (scan : Scan) :
    Except YamlFault Scan :=
  if scan.allowsKey then do
    let scan ← scan.dropPlace
    let place : KeyPlace := {
      depth := scan.depth
      number := scan.count
      required := !scan.inFlow && scan.indent == scan.column
      cursor := scan.cursor
    }
    return { scan with places := place :: scan.places }
  else
    .ok scan

end Scan

end Yaml

end Spreadsheet

------------------------------------------------------------
-- Indentation
------------------------------------------------------------

namespace Spreadsheet

namespace Yaml

namespace Scan

/- Close blocks down to a column, given those that are open. -/
def closeBlocks
    (column : Int) :
    (outer : List Int) → Scan → Scan
  | [], scan => scan
  | next :: outer, scan =>
      if column < scan.indent then
        closeBlocks column outer
          { scan.add .blockEnd with indent := next, outer }
      else
        scan

/- Close the blocks that are indented more than a column. -/
def unwind
    (scan : Scan)
    (column : Int) :
    Scan :=
  if scan.inFlow then
    scan
  else
    closeBlocks column scan.outer scan

/- Open a block at a column unless it is open there. -/
def indentTo
    (scan : Scan)
    (column : Int) :
    Bool × Scan :=
  if scan.indent < column then
    (true, {
      scan with
      indent := column
      outer := scan.indent :: scan.outer
    })
  else
    (false, scan)

/- Open a block here with a token unless it is open. -/
def openBlock
    (scan : Scan)
    (token : Token) :
    Except YamlFault Scan :=
  if scan.inFlow then
    .ok scan
  else if scan.allowsKey then
    let (opened, scan) := scan.indentTo scan.column
    .ok (if opened then scan.add token else scan)
  else
    .error .malformed

end Scan

end Yaml

end Spreadsheet

------------------------------------------------------------
-- Indicators
------------------------------------------------------------

namespace Spreadsheet

namespace Yaml

namespace Scan

/- End all blocks in front of a mark or a directive. -/
def endBlocks
    (scan : Scan) :
    Except YamlFault Scan := do
  let scan ← (scan.unwind (-1)).dropPlace
  return scan.allowing false

/- The end of the text. -/
def fetchEnd
    (scan : Scan) :
    Except YamlFault Scan := do
  let scan ← scan.endBlocks
  return { scan with places := [] }.add .streamEnd

/- A directive. -/
def fetchDirective
    (scan : Scan) :
    Except YamlFault Scan := do
  let scan ← scan.endBlocks
  let (token, cursor) ← directive scan.cursor
  return scan.addBehind token cursor

/- A mark that starts or ends a document. -/
def fetchMark
    (scan : Scan)
    (token : Token) :
    Except YamlFault Scan := do
  let scan ← scan.endBlocks
  return scan.take token 3

/- An opening bracket. -/
def fetchOpening
    (scan : Scan)
    (token : Token) :
    Except YamlFault Scan := do
  let scan ← scan.savePlace
  return { scan with depth := scan.depth + 1 }
    |>.allowing true |>.take token 1

/- A closing bracket. -/
def fetchClosing
    (scan : Scan)
    (token : Token) :
    Except YamlFault Scan := do
  let scan ← scan.dropPlace
  if scan.depth = 0 then
    throw .malformed
  return { scan with depth := scan.depth - 1 }
    |>.allowing false |>.take token 1

/- A comma between brackets. -/
def fetchFlowEntry
    (scan : Scan) :
    Except YamlFault Scan := do
  let scan ← (scan.allowing true).dropPlace
  return scan.take .flowEntry 1

/- A dash in front of an item. -/
def fetchBlockEntry
    (scan : Scan) :
    Except YamlFault Scan := do
  let scan ← scan.openBlock .blockSequenceStart
  let scan ← (scan.allowing true).dropPlace
  return scan.take .blockEntry 1

/- A question mark in front of a key. -/
def fetchKey
    (scan : Scan) :
    Except YamlFault Scan := do
  let scan ← scan.openBlock .blockMappingStart
  let scan ← (scan.allowing !scan.inFlow).dropPlace
  return scan.take .key 1

/- Make a key of what follows a place. -/
def makeKey
    (scan : Scan)
    (place : KeyPlace) :
    Scan :=
  let scan := scan.insert place.number .key
  if scan.inFlow then
    scan
  else
    let (opened, scan) := scan.indentTo place.cursor.column
    if opened then
      scan.insert place.number .blockMappingStart
    else
      scan

/- A colon in front of a value. -/
def fetchValue
    (scan : Scan) :
    Except YamlFault Scan :=
  match scan.places.find? fun place =>
      place.depth == scan.depth with
  | some place =>
      let places := scan.places.filter fun place =>
        place.depth != scan.depth
      let scan := makeKey { scan with places } place
      .ok ((scan.allowing false).take .value 1)
  | none => do
      let scan ← scan.openBlock .blockMappingStart
      let scan ← (scan.allowing !scan.inFlow).dropPlace
      return scan.take .value 1

end Scan

end Yaml

end Spreadsheet

------------------------------------------------------------
-- Names And Scalars
------------------------------------------------------------

namespace Spreadsheet

namespace Yaml

namespace Scan

/- A token that a key can start with. -/
def fetchNamed
    (scan : Scan)
    (read : Cursor → Except YamlFault (Token × Cursor)) :
    Except YamlFault Scan := do
  let scan ← scan.savePlace
  let (token, cursor) ← read scan.cursor
  return (scan.allowing false).addBehind token cursor

/- An alias. -/
def readAlias
    (cursor : Cursor) :
    Except YamlFault (Token × Cursor) := do
  let (name, cursor) ← anchorName cursor
  return (.alias name, cursor)

/- An anchor. -/
def readAnchor
    (cursor : Cursor) :
    Except YamlFault (Token × Cursor) := do
  let (name, cursor) ← anchorName cursor
  return (.anchor name, cursor)

/- A quoted scalar. -/
def readQuoted
    (mark : Char)
    (cursor : Cursor) :
    Except YamlFault (Token × Cursor) := do
  let (text, cursor) ← quoted mark cursor
  return (.scalar text false, cursor)

/- A block scalar. -/
def fetchBlock
    (scan : Scan)
    (folding : Bool) :
    Except YamlFault Scan := do
  let scan ← (scan.allowing true).dropPlace
  let (text, cursor) ← block folding scan.indent scan.cursor
  return scan.addBehind (.scalar text false) cursor

/- A plain scalar. -/
def fetchPlain
    (scan : Scan) :
    Except YamlFault Scan := do
  let scan ← scan.savePlace
  let found := plain scan.inFlow scan.indent scan.cursor
  return (scan.allowing found.broken).addBehind
    (.scalar found.text true) found.cursor

/- Characters that start no plain scalar. -/
def isIndicator
    (c : Char) :
    Bool :=
  isFlowIndicator c || c.toNat = 0x60 ||
    "-?:#&*!|>'\"%@".toList.contains c

/- A plain scalar can start with a character. -/
def startsPlain
    (scan : Scan)
    (c : Char) :
    Bool :=
  !(isBlank c || isBreak c || isIndicator c) ||
    (!endsWord (scan.cursor.peek? 1) &&
      (c = '-' || (!scan.inFlow && (c = '?' || c = ':'))))

end Scan

end Yaml

end Spreadsheet

------------------------------------------------------------
-- Scanning
------------------------------------------------------------

namespace Spreadsheet

namespace Yaml

namespace Scan

/- Step over spaces, comments and empty lines. -/
def skipBetween :
    (fuel : Nat) → Scan → Scan
  | 0, scan => scan
  | fuel + 1, scan =>
      let cursor := scan.cursor.skipSpaces.skipComment
      if cursor.next?.any isBreak then
        let allowsKey := scan.allowsKey || !scan.inFlow
        skipBetween fuel
          { scan with cursor := cursor.lineBreak.2, allowsKey }
      else
        { scan with cursor }

/- The token that starts with a character. -/
def fetchAt
    (scan : Scan)
    (c : Char) :
    Except YamlFault Scan :=
  let atStart := scan.cursor.column = 0
  let apart := scan.inFlow || endsWord (scan.cursor.peek? 1)
  if c = '%' && atStart then
    scan.fetchDirective
  else if atStart && scan.cursor.isAtMark Cursor.startMark then
    scan.fetchMark .documentStart
  else if atStart && scan.cursor.isAtMark Cursor.endMark then
    scan.fetchMark .documentEnd
  else if c = '[' then
    scan.fetchOpening .flowSequenceStart
  else if c = '{' then
    scan.fetchOpening .flowMappingStart
  else if c = ']' then
    scan.fetchClosing .flowSequenceEnd
  else if c = '}' then
    scan.fetchClosing .flowMappingEnd
  else if c = ',' then
    scan.fetchFlowEntry
  else if c = '-' && endsWord (scan.cursor.peek? 1) then
    scan.fetchBlockEntry
  else if c = '?' && apart then
    scan.fetchKey
  else if c = ':' && apart then
    scan.fetchValue
  else if c = '*' then
    scan.fetchNamed readAlias
  else if c = '&' then
    scan.fetchNamed readAnchor
  else if c = '!' then
    scan.fetchNamed tag
  else if c = '|' && !scan.inFlow then
    scan.fetchBlock false
  else if c = '>' && !scan.inFlow then
    scan.fetchBlock true
  else if c = '\'' || c = '"' then
    scan.fetchNamed (readQuoted c)
  else if scan.startsPlain c then
    scan.fetchPlain
  else
    .error .malformed

/- Fetch the next token; the first result says if it is last. -/
def fetch
    (scan : Scan) :
    Except YamlFault (Bool × Scan) := do
  let scan :=
    skipBetween (scan.cursor.rest.length + 1) scan
  let scan ← scan.dropStale
  let scan := scan.unwind scan.column
  match scan.cursor.next? with
  | none => return (true, ← scan.fetchEnd)
  | some c => return (false, ← scan.fetchAt c)

/- Fetch all tokens. -/
def fetchAll :
    (fuel : Nat) → Scan → Except YamlFault (List Token)
  | 0, _ => .error .malformed
  | fuel + 1, scan => do
      let (done, scan) ← scan.fetch
      if done then
        return scan.tokens.reverse
      else
        fetchAll fuel scan

end Scan

/- A text without a byte order mark in front of it. -/
def withoutMark
    (text : List Char) :
    List Char :=
  match text with
  | c :: rest => if isByteOrderMark c then rest else text
  | [] => []

/- The tokens of a text. -/
def tokens
    (text : List Char) :
    Except YamlFault (List Token) :=
  if text.all isAllowed then
    let text := withoutMark text
    Scan.fetchAll (text.length + 1) (.start text)
  else
    .error .malformed

end Yaml

end Spreadsheet
