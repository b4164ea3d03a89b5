import Spreadsheet.Yaml.Token

/-
  Scalars of a YAML text.

  A scalar is plain, quoted or a block.  Lines of plain and
  quoted scalars are folded: a single break between words is a
  space and further breaks are kept.  Blocks keep their breaks
  or fold them, and their indicators say what happens to the
  breaks at the end.

  Key definitions include:
    * `Spreadsheet.Yaml.plain`
    * `Spreadsheet.Yaml.quoted`
    * `Spreadsheet.Yaml.block`
-/

------------------------------------------------------------
-- Folding
------------------------------------------------------------

namespace Spreadsheet

namespace Yaml

/- What stands for a line break and the breaks behind it. -/
def folded
    (first breaks : List Char) :
    List Char :=
  if first ≠ ['\n'] then
    first ++ breaks
  else if breaks.isEmpty then
    [' ']
  else
    breaks

end Yaml

end Spreadsheet

------------------------------------------------------------
-- Plain Scalars
------------------------------------------------------------

namespace Spreadsheet

namespace Yaml

/- An indicator of structure between brackets. -/
def isFlowIndicator
    (c : Char) :
    Bool :=
  c = ',' || c = '[' || c = ']' || c = '{' || c = '}'

/- A colon with this behind it ends a plain scalar. -/
def endsKey
    (inFlow : Bool)
    (next : Option Char) :
    Bool :=
  endsWord next || (inFlow && next.any isFlowIndicator)

/- The characters of a plain scalar up to the next blank. -/
def plainWord
    (inFlow : Bool) :
    List Char → List Char
  | [] => []
  | c :: rest =>
      if isBlank c || isBreak c ||
          (c = ':' && endsKey inFlow rest.head?) ||
          (inFlow && (isFlowIndicator c || c = '?')) then
        []
      else
        c :: plainWord inFlow rest

/- The breaks behind a first one, or none at a document mark. -/
def plainBreaks :
    (fuel : Nat) → Cursor → Option (List Char) × Cursor
  | 0, cursor => (some [], cursor)
  | fuel + 1, cursor =>
      let cursor := cursor.skipSpaces
      if cursor.next?.any isBreak then
        let (found, cursor) := cursor.lineBreak
        if cursor.isAtDocument then
          (none, cursor)
        else
          let (more, cursor) := plainBreaks fuel cursor
          (more.map (found ++ ·), cursor)
      else
        (some [], cursor)

/- What is read between the words of a plain scalar. -/
structure Gap where
  text : List Char
  cursor : Cursor
  broken : Bool

/- The gap behind a word; it is empty where the scalar ends. -/
def plainGap
    (cursor : Cursor) :
    Gap :=
  let (spaces, cursor) := cursor.span (· = ' ')
  if cursor.next?.any isBreak then
    let (first, cursor) := cursor.lineBreak
    if cursor.isAtDocument then
      ⟨[], cursor, true⟩
    else
      match plainBreaks cursor.rest.length cursor with
      | (some breaks, cursor) =>
          ⟨folded first breaks, cursor, true⟩
      | (none, cursor) => ⟨[], cursor, true⟩
  else
    ⟨spaces, cursor, false⟩

/- A plain scalar, and whether it ends behind a line break. -/
structure Plain where
  text : List Char
  cursor : Cursor
  broken : Bool

/-
  Words and the gaps between them from the given gap on.  A
  scalar outside brackets ends at a line that is less
  indented.
-/
def plainFrom
    (inFlow : Bool)
    (indent : Int) :
    (fuel : Nat) → Gap → Plain
  | 0, gap => ⟨[], gap.cursor, gap.broken⟩
  | fuel + 1, gap =>
      let word := plainWord inFlow gap.cursor.rest
      if gap.cursor.isAt '#' || word.isEmpty then
        ⟨[], gap.cursor, gap.broken⟩
      else
        let cursor := gap.cursor.advance word.length
        let next := plainGap cursor
        let behind := next.cursor
        if next.text.isEmpty || behind.isAt '#' ||
            (!inFlow && (behind.column : Int) < indent) then
          ⟨gap.text ++ word, behind, next.broken⟩
        else
          let more := plainFrom inFlow indent fuel next
          ⟨gap.text ++ word ++ more.text, more.cursor,
            more.broken⟩

/- A plain scalar. -/
def plain
    (inFlow : Bool)
    (indent : Int)
    (cursor : Cursor) :
    Plain :=
  plainFrom inFlow (indent + 1) (cursor.rest.length + 1)
    ⟨[], cursor, false⟩

end Yaml

end Spreadsheet

------------------------------------------------------------
-- Quoted Scalars
------------------------------------------------------------

namespace Spreadsheet

namespace Yaml

/- The character that an escape of one letter stands for. -/
def escapedChar? :
    Char → Option Char
  | '0' => some (Char.ofNat 0)
  | 'a' => some (Char.ofNat 7)
  | 'b' => some (Char.ofNat 8)
  | 't' => some '\t'
  | '\t' => some '\t'
  | 'n' => some '\n'
  | 'v' => some (Char.ofNat 11)
  | 'f' => some (Char.ofNat 12)
  | 'r' => some '\r'
  | 'e' => some (Char.ofNat 27)
  | ' ' => some ' '
  | '"' => some '"'
  | '\\' => some '\\'
  | '/' => some '/'
  | 'N' => some (Char.ofNat 0x85)
  | '_' => some (Char.ofNat 0xa0)
  | 'L' => some (Char.ofNat 0x2028)
  | 'P' => some (Char.ofNat 0x2029)
  | _ => none

/- The number of digits behind an escape by code point. -/
def escapedWidth? :
    Char → Option Nat
  | 'x' => some 2
  | 'u' => some 4
  | 'U' => some 8
  | _ => none

/-
  The character of a code point, if there is one.  Half of a
  character is replaced.  A number that needs more than 31
  bits cannot be looked up.
-/
def charOfCode
    (code : Nat) :
    Except YamlFault Char :=
  if 0xd800 ≤ code ∧ code < 0xe000 then
    .ok (Char.ofNat 0xfffd)
  else if code < 0x110000 then
    .ok (Char.ofNat code)
  else if code < 0x80000000 then
    .error (.invalid "chr() arg not in range(0x110000)")
  else
    .error .malformed

/- The breaks inside a quoted scalar, with indentation. -/
def quotedBreaks :
    (fuel : Nat) → Cursor →
      Except YamlFault (List Char × Cursor)
  | 0, cursor => .ok ([], cursor)
  | fuel + 1, cursor =>
      if cursor.isAtDocument then
        .error .malformed
      else
        let cursor := cursor.skip isBlank
        if cursor.next?.any isBreak then do
          let (found, cursor) := cursor.lineBreak
          let (more, cursor) ← quotedBreaks fuel cursor
          return (found ++ more, cursor)
        else
          .ok ([], cursor)

/- The blanks and breaks between words of a quoted scalar. -/
def quotedGap
    (cursor : Cursor) :
    Except YamlFault (List Char × Cursor) :=
  let (blanks, cursor) := cursor.span isBlank
  match cursor.next? with
  | none => .error .malformed
  | some c =>
      if isBreak c then do
        let (first, cursor) := cursor.lineBreak
        let (breaks, cursor) ←
          quotedBreaks (cursor.rest.length + 1) cursor
        return (folded first breaks, cursor)
      else
        .ok (blanks, cursor)

/- An escape between double quotes, behind its backslash. -/
def escape
    (cursor : Cursor) :
    Except YamlFault (List Char × Cursor) :=
  match cursor.next? with
  | none => .error .malformed
  | some c =>
      match escapedChar? c, escapedWidth? c with
      | some c, _ => .ok ([c], cursor.step)
      | none, some width =>
          let digits := cursor.step.rest.take width
          match hexNumber? digits with
          | some code =>
              if digits.length < width then
                .error .malformed
              else do
                let c ← charOfCode code
                return ([c], cursor.advance (width + 1))
          | none => .error .malformed
      | none, none =>
          if isBreak c then
            let cursor := cursor.lineBreak.2
            quotedBreaks (cursor.rest.length + 1) cursor
          else
            .error .malformed

/- A character that stands for itself in quotes. -/
def isQuotedPart
    (c : Char) :
    Bool :=
  !(c = '\'' || c = '"' || c = '\\' || isBlank c ||
    isBreak c)

/-
  The text up to the closing quote.  A single quote is written
  twice between single quotes, and escapes are read between
  double quotes.
-/
def quotedFrom
    (mark : Char) :
    (fuel : Nat) → Cursor →
      Except YamlFault (List Char × Cursor)
  | 0, _ => .error .malformed
  | fuel + 1, cursor =>
      match cursor.next? with
      | none => .error .malformed
      | some c =>
          if c = mark then
            if mark = '\'' && cursor.peek? 1 = some '\'' then do
              let (more, cursor) ←
                quotedFrom mark fuel (cursor.advance 2)
              return ('\'' :: more, cursor)
            else
              .ok ([], cursor.step)
          else if isQuotedPart c then do
            let (found, cursor) := cursor.span isQuotedPart
            let (more, cursor) ← quotedFrom mark fuel cursor
            return (found ++ more, cursor)
          else if isBlank c || isBreak c then do
            let (found, cursor) ← quotedGap cursor
            let (more, cursor) ← quotedFrom mark fuel cursor
            return (found ++ more, cursor)
          else if mark = '"' && c = '\\' then do
            let (found, cursor) ← escape cursor.step
            let (more, cursor) ← quotedFrom mark fuel cursor
            return (found ++ more, cursor)
          else do
            let (more, cursor) ←
              quotedFrom mark fuel cursor.step
            return (c :: more, cursor)

/- A quoted scalar. -/
def quoted
    (mark : Char)
    (cursor : Cursor) :
    Except YamlFault (List Char × Cursor) :=
  quotedFrom mark cursor.rest.length cursor.step

end Yaml

end Spreadsheet

------------------------------------------------------------
-- Blocks
------------------------------------------------------------

namespace Spreadsheet

namespace Yaml

/- What becomes of the breaks at the end of a block. -/
inductive Chomping where
  | strip
  | clip
  | keep
deriving DecidableEq, Repr

/- The chomping that an indicator asks for. -/
def chomping? :
    Option Char → Option Chomping
  | some '+' => some .keep
  | some '-' => some .strip
  | _ => none

/- The indentation that an indicator asks for. -/
def indentation?
    (next : Option Char) :
    Option Nat :=
  next.bind fun c =>
    if '0' ≤ c && c ≤ '9' then
      some (c.toNat - '0'.toNat)
    else
      none

/- The indicators of a block, in either order. -/
def blockIndicators
    (cursor : Cursor) :
    Except YamlFault (Chomping × Option Nat × Cursor) := do
  let (chomping, indentation, cursor) :=
    match chomping? cursor.next?, indentation? cursor.next? with
    | some chomping, _ =>
        match indentation? cursor.step.next? with
        | some n => (chomping, some n, cursor.advance 2)
        | none => (chomping, none, cursor.step)
    | none, some n =>
        match chomping? cursor.step.next? with
        | some chomping => (chomping, some n, cursor.advance 2)
        | none => (.clip, some n, cursor.step)
    | none, none => (Chomping.clip, none, cursor)
  if indentation = some 0 ||
      !endsLineOrSpace cursor.next? then
    throw .malformed
  return (chomping, indentation, cursor)

/- Empty lines and the greatest indentation among them. -/
def leadingBreaks
    (greatest : Nat) :
    (fuel : Nat) → Cursor → List Char × Nat × Cursor
  | 0, cursor => ([], greatest, cursor)
  | fuel + 1, cursor =>
      if cursor.next?.any isBreak then
        let (found, cursor) := cursor.lineBreak
        let (more, greatest, cursor) :=
          leadingBreaks greatest fuel cursor
        (found ++ more, greatest, cursor)
      else if cursor.isAt ' ' then
        let cursor := cursor.step
        leadingBreaks (max greatest cursor.column) fuel cursor
      else
        ([], greatest, cursor)

/- Step over spaces up to a column. -/
def skipTo
    (indent : Nat)
    (cursor : Cursor) :
    Cursor :=
  let spaces := cursor.rest.takeWhile (· = ' ')
  cursor.advance (min spaces.length (indent - cursor.column))

/- Empty lines, each with at most the given indentation. -/
def blockBreaks
    (indent : Nat) :
    (fuel : Nat) → Cursor → List Char × Cursor
  | 0, cursor => ([], cursor)
  | fuel + 1, cursor =>
      let cursor := skipTo indent cursor
      if cursor.next?.any isBreak then
        let (found, cursor) := cursor.lineBreak
        let (more, cursor) := blockBreaks indent fuel cursor
        (found ++ more, cursor)
      else
        ([], cursor)

/- The cursor is at a line of the block. -/
def isAtLine
    (indent : Nat)
    (cursor : Cursor) :
    Bool :=
  cursor.column = indent && cursor.next?.isSome

/- What joins a line of a block to the next one. -/
def blockJoint
    (folding spaced nextSpaced : Bool)
    (first breaks : List Char) :
    List Char :=
  if folding && first = ['\n'] && !spaced && !nextSpaced then
    if breaks.isEmpty then [' '] else []
  else
    first

/- What remains of the breaks at the end of a block. -/
def chomped
    (chomping : Chomping)
    (first breaks : List Char) :
    List Char :=
  match chomping with
  | .strip => []
  | .clip => first
  | .keep => first ++ breaks

/- A line starts with a blank. -/
def startsSpaced
    (cursor : Cursor) :
    Bool :=
  cursor.next?.any isBlank

/- The lines of a block behind given breaks. -/
def blockLines
    (folding : Bool)
    (chomping : Chomping)
    (indent : Nat) :
    (fuel : Nat) → List Char → Cursor → List Char × Cursor
  | 0, breaks, cursor => (breaks, cursor)
  | fuel + 1, breaks, cursor =>
      let spaced := startsSpaced cursor
      let (text, cursor) := cursor.span fun c => !isBreak c
      let (first, cursor) := cursor.lineBreak
      let (next, cursor) :=
        blockBreaks indent (cursor.rest.length + 1) cursor
      if isAtLine indent cursor then
        let joint := blockJoint folding spaced
          (startsSpaced cursor) first next
        let (more, cursor) :=
          blockLines folding chomping indent fuel next cursor
        (breaks ++ text ++ joint ++ more, cursor)
      else
        (breaks ++ text ++ chomped chomping first next, cursor)

/- A block at an indentation, behind its indicator. -/
def block
    (folding : Bool)
    (parent : Int)
    (cursor : Cursor) :
    Except YamlFault (List Char × Cursor) := do
  let (chomping, indentation, cursor) ←
    blockIndicators cursor.step
  let cursor ← restOfLine cursor
  let least := (max (parent + 1) 1).toNat
  let fuel := cursor.rest.length + 1
  let (breaks, indent, cursor) :=
    match indentation with
    | some n =>
        let indent := least + n - 1
        let (breaks, cursor) := blockBreaks indent fuel cursor
        (breaks, indent, cursor)
    | none =>
        let (breaks, greatest, cursor) :=
          leadingBreaks 0 fuel cursor
        (breaks, max least greatest, cursor)
  if isAtLine indent cursor then
    return blockLines folding chomping indent fuel breaks cursor
  else
    return (chomped chomping [] breaks, cursor)

end Yaml

end Spreadsheet
