import Spreadsheet.Display
import Spreadsheet.Event
import Spreadsheet.Sheet

/-
  Sessions with a sheet.

  A session displays cells.  A cell that fails shows the code
  of its failure, and the failure is entered into a table and
  reported by an event.  The table has one message for each
  label, that of the latest failure.

  Key definitions include:
    * `Spreadsheet.Session`
    * `Spreadsheet.Failure.event`
    * `Spreadsheet.Sheet.displayCell`
    * `Spreadsheet.Sheet.displayGrid`
    * `Spreadsheet.Session.invalidate`
-/

------------------------------------------------------------
-- Sessions
------------------------------------------------------------

namespace Spreadsheet

/- Messages of failures by the labels of cells, in order. -/
abbrev ErrorTable := List (String × String)

namespace ErrorTable

/- Enter a message in place of an earlier one for the label. -/
def enter
    (label message : String) :
    ErrorTable → ErrorTable
  | [] => [(label, message)]
  | (other, old) :: rest =>
      if other = label then
        (label, message) :: rest
      else
        (other, old) :: enter label message rest

end ErrorTable

/-
  What a session has come to: the progress of evaluations,
  the table of failures and the events so far, in order.
-/
structure Session where
  progress : Progress
  errors : ErrorTable
  events : List Event

namespace Session

/- A session that has just begun. -/
def start : Session := ⟨.start, [], []⟩

/- Forget values and failures. -/
def invalidate
    (session : Session) :
    Session :=
  {
    session with
    progress :=
      {
        session.progress with
        known := ∅
        busy := ∅
        path := []
      }
    errors := []
  }

/- Report an event. -/
def report
    (session : Session)
    (event : Event) :
    Session :=
  { session with events := session.events ++ [event] }

end Session

end Spreadsheet

------------------------------------------------------------
-- Reports Of Failures
------------------------------------------------------------

namespace Spreadsheet

namespace Failure

/- The type of the event that reports a failure. -/
def eventType :
    Failure → EventType
  | circular _ => .circularReference
  | unknownFunction _ => .unknownFunction
  | _ => .cellError

/- Faults of the machine are errors, all others warnings. -/
def eventLevel
    (failure : Failure) :
    Level :=
  if failure.isFormulaError then .warning else .error

/- What the event about a failure tells besides the cell. -/
def eventDetails
    (failure : Failure) :
    Entries :=
  match failure with
  | circular path =>
      [("cycle", .list (path.map fun cell => .text cell.label))]
  | unknownFunction name => [("function", .text name)]
  | _ =>
      match failure.machineName? with
      | some name => [("exception", .text name)]
      | none => []

/- The event that reports a failure of a cell. -/
def event
    (failure : Failure)
    (label raw : String) :
    Event :=
  {
    level := failure.eventLevel
    type := failure.eventType
    message := failure.recordedMessage
    context :=
      ("cell", .text label) :: ("formula", .text raw) ::
        failure.eventDetails
    code := some failure.code
  }

end Failure

namespace Session

/- Enter the failure of a cell and report it. -/
def record
    (session : Session)
    (label raw : String)
    (failure : Failure) :
    Session :=
  {
    session with
    errors :=
      session.errors.enter label failure.recordedMessage
    events := session.events ++ [failure.event label raw]
  }

end Session

end Spreadsheet

------------------------------------------------------------
-- Cells
------------------------------------------------------------

namespace Spreadsheet

namespace Sheet

/- Run an evaluation in a session. -/
def perform
    {α : Type}
    (run : Run α) :
    StateM Session (Except Failure α) := do
  let session ← get
  let (result, progress) := run.outcome session.progress
  set { session with progress }
  return result

/-
  What a cell shows.  A raw text that is no formula is shown
  as it is written.
-/
def displayCell
    (sheet : Sheet)
    (cell : Cell) :
    StateM Session String := do
  let raw := sheet.grid.read cell
  if isFormula raw then
    match ← perform (sheet.evaluateCell cell) with
    | .ok value =>
        return value.display sheet.settings.displayDecimals
    | .error failure =>
        modify (·.record cell.label raw failure)
        return failure.display
  else
    return raw

end Sheet

end Spreadsheet

------------------------------------------------------------
-- Recalculation
------------------------------------------------------------

namespace Spreadsheet

namespace Sheet

/- The extent of a grid as data around an event. -/
def extent
    (rows cols : Nat) :
    Entries :=
  [("rows", .whole rows), ("cols", .whole cols)]

/- The event before a recalculation. -/
def startedEvent
    (rows cols : Nat) :
    Event :=
  {
    level := .info
    type := .recalcStarted
    message :=
      "Recalculating " ++ shownNat rows ++ "x" ++
        shownNat cols ++ " grid"
    context := extent rows cols
    code := none
  }

/-
  The event after a recalculation, with the number of new
  failures and the time that it took.
-/
def completedEvent
    (rows cols : Nat)
    (failures : Int)
    (duration : Document) :
    Event :=
  {
    level := .info
    type := .recalcCompleted
    message :=
      "Recalculated " ++ shownNat (rows * cols) ++ " cells"
    context :=
      extent rows cols ++
        [("errors", .whole failures),
          ("duration_ms", duration)]
    code := none
  }

/- What the cells of a row show. -/
def displayRow
    (sheet : Sheet)
    (cols row : Nat) :
    StateM Session (List String) :=
  (List.range cols).mapM fun col : Nat =>
    sheet.displayCell ⟨row, col⟩

/-
  What all cells show, as a rectangle.  The duration is that
  of the recalculation.
-/
def displayGrid
    (sheet : Sheet)
    (duration : Document) :
    StateM Session (List (List String)) := do
  let rows := sheet.grid.length
  let cols := sheet.grid.columns
  modify (·.report (startedEvent rows cols))
  let before := (← get).errors.length
  let shown ← (List.range rows).mapM (sheet.displayRow cols)
  let after := (← get).errors.length
  modify (·.report (completedEvent rows cols
    ((after : Int) - before) duration))
  return shown

end Sheet

end Spreadsheet
