import Spreadsheet.Document

/-
  Events.

  An event is what a log records: its level, its type, a
  message, the data around it and the code of an error.  Long
  texts among the data are cut, and an event about a cell that
  does not name the cell is marked and made a warning.

  Key definitions include:
    * `Spreadsheet.Level`
    * `Spreadsheet.EventType`
    * `Spreadsheet.Event`
    * `Spreadsheet.Event.ofWords`
    * `Spreadsheet.Entries.truncated`
    * `Spreadsheet.Event.attributed`
    * `Spreadsheet.Event.prepared`
    * `Spreadsheet.Event.toDocument`
-/

------------------------------------------------------------
-- Levels And Types
------------------------------------------------------------

namespace Spreadsheet

/- How grave an event is. -/
inductive Level where
  | info
  | warning
  | error
deriving DecidableEq, Repr

/- What an event is about. -/
inductive EventType where
  | cellError
  | circularReference
  | unknownFunction
  | recalcStarted
  | recalcCompleted
deriving DecidableEq, Repr

/- A word that names no level or no type of events. -/
inductive EventFault where
  | level (word : String)
  | type (word : String)
deriving DecidableEq, Repr

namespace Level

/- The word for a level. -/
def word :
    Level → String
  | info => "info"
  | warning => "warning"
  | error => "error"

/- All levels. -/
def all : List Level := [info, warning, error]

/- The level that a word names. -/
def ofWord
    (word : String) :
    Except EventFault Level :=
  match all.find? fun level => level.word = word with
  | some level => .ok level
  | none => .error (.level word)

end Level

namespace EventType

/- The word for a type of events. -/
def word :
    EventType → String
  | cellError => "cell_error"
  | circularReference => "circular_reference"
  | unknownFunction => "unknown_function"
  | recalcStarted => "recalc_started"
  | recalcCompleted => "recalc_completed"

/- All types of events. -/
def all : List EventType :=
  [
    cellError, circularReference, unknownFunction,
    recalcStarted, recalcCompleted
  ]

/- The type of events that a word names. -/
def ofWord
    (word : String) :
    Except EventFault EventType :=
  match all.find? fun type => type.word = word with
  | some type => .ok type
  | none => .error (.type word)

/- The names that the data around an event must have. -/
def required :
    EventType → List String
  | cellError => ["cell"]
  | circularReference => ["cell"]
  | unknownFunction => ["cell"]
  | recalcStarted => []
  | recalcCompleted => []

end EventType

namespace EventFault

/- The message of a word that names nothing. -/
def message :
    EventFault → String
  | level word =>
      String.ofList (Text.quoted word.toList) ++
        " is not a valid EventLevel"
  | type word =>
      String.ofList (Text.quoted word.toList) ++
        " is not a valid EventType"

end EventFault

end Spreadsheet

------------------------------------------------------------
-- Events
------------------------------------------------------------

namespace Spreadsheet

/- What a log records, apart from the time. -/
structure Event where
  level : Level
  type : EventType
  message : String
  context : Entries
  code : Option String
deriving Repr

namespace Event

/- An event whose level and type are given in words. -/
def ofWords
    (level type message : String)
    (context : Entries)
    (code : Option String) :
    Except EventFault Event := do
  let level ← Level.ofWord level
  let type ← EventType.ofWord type
  return { level, type, message, context, code }

/- The version of the form in which events are written. -/
def version : Int := 1

/- An event that happened at a time, as a document. -/
def toDocument
    (time : String)
    (event : Event) :
    Document :=
  .map [
    ("schema_version", .whole version),
    ("ts", .text time),
    ("level", .text event.level.word),
    ("event_type", .text event.type.word),
    ("context", .map event.context),
    ("message", .text event.message),
    ("error_code", (event.code.map .text).getD .null)
  ]

end Event

end Spreadsheet

------------------------------------------------------------
-- Truncation
------------------------------------------------------------

namespace Spreadsheet

/- Texts of more characters are cut. -/
def longestText : Nat := 256

/- What is written behind a text that was cut. -/
def cutMark : String := "...[truncated]"

/- A text, cut if it is too long. -/
def cutText
    (s : String) :
    String :=
  let text := s.toList
  if longestText < text.length then
    String.ofList (text.take longestText ++ cutMark.toList)
  else
    s

namespace Document

mutual

/- The data under a name, with texts cut. -/
def truncated :
    Document → Document
  | map entries => .map (truncatedEntries entries)
  | list items => .list (truncatedItems items)
  | text s => .text (cutText s)
  | document => document
termination_by structural document => document

/- The items of a list, with texts cut; lists inside are kept. -/
def truncatedItems :
    List Document → List Document
  | [] => []
  | .map entries :: rest =>
      .map (truncatedEntries entries) :: truncatedItems rest
  | .text s :: rest => .text (cutText s) :: truncatedItems rest
  | item :: rest => item :: truncatedItems rest
termination_by structural items => items

/- The entries of a map, with texts cut. -/
def truncatedEntries :
    List (String × Document) → List (String × Document)
  | [] => []
  | (name, document) :: rest =>
      (name, document.truncated) :: truncatedEntries rest
termination_by structural entries => entries

end

end Document

/- The data around an event, with long texts cut. -/
def Entries.truncated
    (entries : Entries) :
    Entries :=
  Document.truncatedEntries entries

end Spreadsheet

------------------------------------------------------------
-- Attribution
------------------------------------------------------------

namespace Spreadsheet

namespace Event

/- The names that the data around an event lack. -/
def lacking
    (event : Event) :
    List String :=
  event.type.required.filter fun name =>
    !event.context.names.contains name

/- An event marked by the names that its data lack, if any. -/
def attributed
    (event : Event) :
    Event :=
  if event.lacking.isEmpty then
    event
  else
    {
      event with
      level := .warning
      context :=
        event.context.put "_missing_attribution"
          (.list (event.lacking.map .text))
    }

/- An event as it is put into a log. -/
def prepared
    (event : Event) :
    Event :=
  attributed { event with context := event.context.truncated }

end Event

end Spreadsheet
