import Spreadsheet.Event
import Spreadsheet.Json.Reading
import Spreadsheet.Json.Written
import Spreadsheet.Settings
import Spreadsheet.Text.Blank
import Spreadsheet.Text.Utf8

/-
  The journal of events.

  Events are appended to a log, each as one line.  Only the
  end of the log is read back, the latest event first, and
  lines that are no documents are passed over.  Events that
  cannot be written are lost; that is told once in a while.

  Key definitions include:
    * `Spreadsheet.Log`
    * `Spreadsheet.Log.append`
    * `Spreadsheet.Log.tail`
    * `Spreadsheet.Log.documents`
    * `Spreadsheet.Filter`
    * `Spreadsheet.Log.read`
    * `Spreadsheet.Journal`
    * `Spreadsheet.Journal.emit`
-/

------------------------------------------------------------
-- Logs
------------------------------------------------------------

namespace Spreadsheet

/- The bytes of a log in the parts that were added, latest first. -/
structure Log where
  parts : List (List UInt8)
deriving Repr

namespace Log

/- A log without bytes. -/
def empty : Log := ⟨[]⟩

/- The bytes of a log, in order. -/
def bytes
    (log : Log) :
    List UInt8 :=
  log.parts.reverse.flatten

/- Add bytes at the end. -/
def add
    (log : Log)
    (bytes : List UInt8) :
    Log :=
  ⟨bytes :: log.parts⟩

/- An event at a time as a line. -/
def line
    (time : String)
    (event : Event) :
    List Char :=
  (event.toDocument time).line ++ ['\n']

/-
  Append an event that happened at a time.  One that cannot be
  written leaves the log as it is.
-/
def append
    (log : Log)
    (time : String)
    (event : Event) :
    Log :=
  if (event.toDocument time).isWritable then
    log.add (Text.encode (line time event))
  else
    log

end Log

end Spreadsheet

------------------------------------------------------------
-- Reading Logs
------------------------------------------------------------

namespace Spreadsheet

/- Why a log cannot be read. -/
inductive LogFault where
  | tooManyDigits (digits : Nat)
  | noMap
deriving DecidableEq, Repr

namespace Log

/- The byte that ends a line. -/
def lineFeed : UInt8 := 10

/- Bytes behind the first line end; all if there is none. -/
def afterFirstLine
    (bytes : List UInt8) :
    List UInt8 :=
  match bytes.dropWhile (· != lineFeed) with
  | [] => bytes
  | _ :: rest => rest

/-
  The bytes at the end of a log.  If some are left out, the
  first line of what is left is taken for incomplete.
-/
def tail
    (size : Nat)
    (log : Log) :
    List UInt8 :=
  let bytes := log.bytes
  let length := bytes.length
  if length ≤ size then
    bytes
  else
    afterFirstLine (bytes.drop (length - size))

/- The documents of lines, without those that are none. -/
def documentsOf :
    List (List Char) → Except LogFault (List (Document Key))
  | [] => .ok []
  | line :: rest =>
      let text := Text.trim line
      if text.isEmpty then
        documentsOf rest
      else
        match Document.ofJson text with
        | .ok document =>
            (documentsOf rest).map (document :: ·)
        | .error .malformed => documentsOf rest
        | .error (.tooManyDigits digits) =>
            .error (.tooManyDigits digits)

/- The documents at the end of a log, in order. -/
def documents
    (size : Nat)
    (log : Log) :
    Except LogFault (List (Document Key)) :=
  documentsOf (Text.lines (Text.decode (log.tail size)))

end Log

end Spreadsheet

------------------------------------------------------------
-- Filters
------------------------------------------------------------

namespace Spreadsheet

/-
  What is looked for in a log.  A filter that is not given or
  empty lets everything pass.
-/
structure Filter where
  level : Option String
  type : Option String
  cell : Option String
  limit : Int
deriving DecidableEq, Repr

namespace Filter

/- How many events are read by default. -/
def defaultLimit : Int := 200

/- How many events are read at most. -/
def greatestLimit : Int := 2000

/- The filter that lets everything pass. -/
def all : Filter := ⟨none, none, none, defaultLimit⟩

/- The entries of a document that has to be a map. -/
def entriesOf :
    Document Key → Except LogFault (Entries Key)
  | .map entries => .ok entries
  | _ => .error .noMap

/- An entry of a map is a given text. -/
def isText
    {ν : Type}
    (text : String) :
    Option (Document ν) → Bool
  | some (.text s) => s == text
  | _ => false

/- A document has a text under a name. -/
def hasText
    (name text : String)
    (document : Document Key) :
    Except LogFault Bool := do
  let entries ← entriesOf document
  return isText text (entries.get? name)

/- The data around the event of a document name a cell. -/
def hasCell
    (cell : String)
    (document : Document Key) :
    Except LogFault Bool := do
  let entries ← entriesOf document
  let context := (entries.get? "context").getD (.map [])
  hasText "cell" cell context

/- Keep the documents that pass a test, unless it fails. -/
def keep
    (test : Document Key → Except LogFault Bool) :
    List (Document Key) →
      Except LogFault (List (Document Key))
  | [] => .ok []
  | document :: rest => do
      let passes ← test document
      let rest ← keep test rest
      return if passes then document :: rest else rest

/- Keep what passes a test if there is a word to look for. -/
def keepIf
    (word : Option String)
    (test : String → Document Key → Except LogFault Bool)
    (documents : List (Document Key)) :
    Except LogFault (List (Document Key)) :=
  match word with
  | none => .ok documents
  | some word =>
      if word.isEmpty then
        .ok documents
      else
        keep (test word) documents

/-
  The first items up to a limit; a negative limit leaves out
  as many of the last.
-/
def limited
    (limit : Int)
    (documents : List (Document Key)) :
    List (Document Key) :=
  let limit := min limit greatestLimit
  if 0 ≤ limit then
    documents.take limit.toNat
  else
    documents.take (documents.length - limit.natAbs)

end Filter

namespace Log

/- The documents that pass a filter, the latest first. -/
def read
    (filter : Filter)
    (size : Nat)
    (log : Log) :
    Except LogFault (List (Document Key)) := do
  let found ← log.documents size
  let found ←
    Filter.keepIf filter.level (Filter.hasText "level") found
  let found ←
    Filter.keepIf filter.type
      (Filter.hasText "event_type") found
  let found ← Filter.keepIf filter.cell Filter.hasCell found
  return Filter.limited filter.limit found.reverse

end Log

end Spreadsheet

------------------------------------------------------------
-- Journals
------------------------------------------------------------

namespace Spreadsheet

/-
  Where events go: nowhere, into the log, of which an end of a
  size is read back, or to a place that cannot be written.
-/
inductive Sink where
  | closed
  | log (tailBytes : Nat)
  | broken
deriving DecidableEq, Repr

/- A log with its sink, and whether a loss was told of late. -/
structure Journal where
  sink : Sink
  log : Log
  warned : Bool
deriving Repr

namespace Journal

/- A journal that takes no events yet. -/
def start : Journal := ⟨.closed, .empty, false⟩

/- The size of the end that a configuration asks to read. -/
def tailBytes
    (configuration : Configuration) :
    Nat :=
  match configuration.get? Setting.loggingTailBytes.name with
  | some (.whole n) => n.toNat
  | some (.truth b) => if b then 1 else 0
  | _ => Configuration.defaultTailBytes

/- Lose an event, and tell of it unless that was done of late. -/
def lose
    (journal : Journal) :
    Journal × Bool :=
  ({ journal with warned := true }, !journal.warned)

/-
  Put an event that happened at a time into the log.  The
  second result tells of a loss.
-/
def emit
    (journal : Journal)
    (time : String)
    (event : Event) :
    Journal × Bool :=
  let event := event.prepared
  match journal.sink with
  | .closed => (journal, false)
  | .log _ =>
      if (event.toDocument time).isWritable then
        let log := journal.log.append time event
        ({ journal with log }, false)
      else
        journal.lose
  | .broken => journal.lose

/- Put events into the log that happened at one time. -/
def emitAll
    (journal : Journal)
    (time : String)
    (events : List Event) :
    Journal :=
  events.foldl (fun journal event => (journal.emit time event).1)
    journal

end Journal

end Spreadsheet
