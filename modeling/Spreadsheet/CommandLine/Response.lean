import Spreadsheet.CommandLine.Command
import Spreadsheet.Configuration
import Spreadsheet.Formula.References
import Spreadsheet.Function.Words
import Spreadsheet.Session

/-
  Responses to commands.

  A response is what a command writes, its exit code and the
  events that it reports.  Faults of what is given are told in
  words; the others escape and end the program.

  Key definitions include:
    * `Spreadsheet.CommandLine.Response`
    * `Spreadsheet.CommandLine.Escape`
    * `Spreadsheet.CommandLine.GivenCell`
    * `Spreadsheet.CommandLine.gridOf`
    * `Spreadsheet.CommandLine.Command.respond`
-/

------------------------------------------------------------
-- Responses
------------------------------------------------------------

namespace Spreadsheet

namespace CommandLine

/- The name and version of the program. -/
def versionLine : String := "gridcalc, version 0.1.0\n"

/- How the program is used. -/
def usageLine : String :=
  "Usage: gridcalc [--version] [--help] " ++
    "(eval | tokens | refs | functions) [ARGUMENTS]\n"

/- Faults that are not told in words. -/
inductive Escape where
  | unreadableConfiguration
  | rowTooLong
  | tooManyColumns
  | noMemory
deriving DecidableEq, Repr

/- Why a command has no answer. -/
inductive Refusal where
  | usage
  | told (message : String)
  | escaped (escape : Escape)
deriving DecidableEq, Repr

/- What a command writes and how it ends. -/
structure Response where
  exit : Nat
  output : String
  errorOutput : String
  escape : Option Escape
  events : List Event
deriving Repr

namespace Response

/- An answer that is written. -/
def answer
    (output : String)
    (events : List Event) :
    Response :=
  ⟨0, output, "", none, events⟩

/- A refusal; wrong usage has an exit code of its own. -/
def ofRefusal :
    Refusal → Response
  | .usage => ⟨2, "", usageLine, none, []⟩
  | .told message =>
      ⟨1, "", "Error: " ++ message ++ "\n", none, []⟩
  | .escaped escape => ⟨1, "", "", some escape, []⟩

end Response

end CommandLine

end Spreadsheet

------------------------------------------------------------
-- Given Cells
------------------------------------------------------------

namespace Spreadsheet

namespace CommandLine

/- A cell with the raw text that it is given. -/
structure GivenCell where
  cell : Cell
  raw : String
deriving DecidableEq, Repr

/- A cell as it is given: a label, an equals sign, a text. -/
def GivenCell.ofText
    (item : String) :
    Except Refusal GivenCell :=
  let text := item.toList
  match text.dropWhile (· ≠ '=') with
  | [] =>
      .error (.told ("Invalid --cell format: " ++
        shownText item ++ ". Use A1=value."))
  | _ :: raw =>
      let label := String.ofList (text.takeWhile (· ≠ '='))
      match Cell.ofLabel label with
      | .ok cell => .ok ⟨cell, String.ofList raw⟩
      | .error (.malformed label) =>
          .error (.told (LabelFault.malformed label).message)
      | .error (.rowTooLong _) => .error (.escaped .rowTooLong)

/- The number of rows that cells take up. -/
def rowsOf
    (given : List GivenCell) :
    Nat :=
  (given.map fun cell => (cell.cell.row + 1).toNat).foldl max 0

/- The number of columns that cells take up, one at least. -/
def columnsOf
    (given : List GivenCell) :
    Nat :=
  (given.map fun cell => (cell.cell.col + 1).toNat).foldl max 1

/- A grid of empty texts. -/
def emptyGrid
    (rows cols : Nat) :
    Grid :=
  List.replicate rows
    (some (List.replicate cols (some "")))

/-
  The grid of given cells with a row below them, in which a
  raw text stands first.
-/
def gridOf
    (given : List GivenCell)
    (raw : String) :
    Grid :=
  let rows := rowsOf given
  let grid := emptyGrid (rows + 1) (columnsOf given)
  let grid := given.foldl
    (fun grid cell =>
      grid.write cell.cell.row.toNat cell.cell.col.toNat
        (some cell.raw))
    grid
  grid.write rows 0 (some raw)

/- The number of cells in the grid of given cells. -/
def sizeOf
    (given : List GivenCell) :
    Nat :=
  (rowsOf given + 1) * columnsOf given

/-
  A length must be able to tell the cells of a row, and the
  memory must have place for those of all rows.
-/
def checkSize
    (surroundings : Surroundings)
    (given : List GivenCell) :
    Except Refusal Unit :=
  if lengthLimit ≤ columnsOf given then
    .error (.escaped .tooManyColumns)
  else if surroundings.fits (sizeOf given) then
    .ok ()
  else
    .error (.escaped .noMemory)

/- A text as a formula, with the mark of one if it has none. -/
def asFormula
    (text : String) :
    String :=
  if isFormula text then text else "=" ++ text

end CommandLine

end Spreadsheet

------------------------------------------------------------
-- Evaluating
------------------------------------------------------------

namespace Spreadsheet

namespace CommandLine

variable (read : DocumentReader)

/- The configuration at a path that was given. -/
def configurationAt
    (files : Files)
    (path : Option String) :
    Except Refusal Configuration :=
  match Configuration.loadBy read files path with
  | .ok configuration => .ok configuration
  | .error (.unreadable .malformed) =>
      .error (.escaped .unreadableConfiguration)
  | .error fault => .error (.told fault.message)

/- A path that is given must lead somewhere. -/
def checkPath
    (files : Files)
    (path : Option String) :
    Except Refusal Unit :=
  match path with
  | none => .ok ()
  | some path =>
      match files path with
      | .missing => .error .usage
      | _ => .ok ()

/- The settings of a configuration. -/
def settingsOf
    (configuration : Configuration) :
    Except Refusal Settings :=
  (Settings.ofConfiguration configuration).mapError
    fun fault => .told fault.message

/- The errors of a session as a document. -/
def errorsOf
    (errors : ErrorTable) :
    Document :=
  .map (errors.map fun entry => (entry.1, .text entry.2))

/- What is written for a cell and what it shows. -/
def outputOf
    (asJson : Bool)
    (cell : Cell)
    (shown : String)
    (errors : ErrorTable) :
    String :=
  if asJson then
    Document.toIndented (.map [
      ("cell", .text cell.label),
      ("display", .text shown),
      ("errors", errorsOf errors)
    ]) ++ "\n"
  else
    shown ++ "\n"

/- The sheet in which a request is evaluated, and its cell. -/
def sheetOf
    (files : Files)
    (surroundings : Surroundings)
    (request : Request) :
    Except Refusal (Sheet × Cell) := do
  checkPath files request.configuration
  let configuration ←
    configurationAt read files request.configuration
  let given ← request.cells.mapM GivenCell.ofText
  checkSize surroundings given
  let settings ← settingsOf configuration
  let grid := gridOf given (asFormula request.formula)
  return (⟨grid, settings, surroundings⟩, ⟨rowsOf given, 0⟩)

/- Events are reported only if a directory is given for them. -/
def Request.hasLog
    (request : Request) :
    Bool :=
  request.logDirectory.any fun path => !path.isEmpty

/- Evaluate a formula. -/
def evaluate
    (files : Files)
    (surroundings : Surroundings)
    (request : Request) :
    Response :=
  match sheetOf read files surroundings request with
  | .error refusal => .ofRefusal refusal
  | .ok (sheet, cell) =>
      let (shown, session) :=
        (sheet.displayCell cell).run .start
      .answer
        (outputOf request.asJson cell shown session.errors)
        (if request.hasLog then session.events else [])

end CommandLine

end Spreadsheet

------------------------------------------------------------
-- Tokens, References And Functions
------------------------------------------------------------

namespace Spreadsheet

namespace CommandLine

/- The value of a token in words. -/
def tokenText :
    Token → List Char
  | .number (some x) => Number.toText x
  | .number none => "(invalid)".toList
  | .string s => Json.quoted s.toList
  | .boolean b => if b then "TRUE".toList else "FALSE".toList
  | .cell name => name.toList
  | .range name => name.toList
  | .function name => name.toList
  | .operator symbol => symbol.toList
  | .paren symbol => symbol.toList
  | .comma => [',']

/- The line of a token: its kind and its value. -/
def tokenLine
    (token : Token) :
    String :=
  token.kind ++ " " ++ String.ofList (tokenText token) ++ "\n"

/- The lines of the tokens of a formula. -/
def tokenLines
    (formula : String) :
    String :=
  let text := formula.toList
  let body := (formulaBody? text).getD text
  String.join
    ((tokenize (String.ofList body)).map tokenLine)

/- The lines of the references of a formula. -/
def referenceLines
    (formula : Expr) :
    String :=
  String.join
    (formula.cellNames.map (fun name =>
      "cell  " ++ name ++ "\n") ++
    formula.rangeNames.map (fun name =>
      "range " ++ name ++ "\n"))

/- Show what a formula refers to. -/
def references
    (formula : String) :
    Response :=
  match Expr.ofFormula (asFormula formula) with
  | .ok formula => .answer (referenceLines formula) []
  | .error fault => .ofRefusal (.told fault.message)

/- The other names of each function, as a document. -/
def functionDocument : Document :=
  .map (Function.all.map fun function =>
    (function.name,
      .list (function.otherNames.map Document.text)))

/- A text without the blanks at its end. -/
def withoutEnd
    (text : List Char) :
    List Char :=
  (text.reverse.dropWhile (· = ' ')).reverse

/- The width of the names of functions in a list. -/
def nameWidth : Nat := 12

/- The line of a function: its name and its other names. -/
def functionLine
    (function : Function) :
    String :=
  let name := function.name.toList
  let padding :=
    List.replicate (nameWidth - name.length) ' '
  let others := ", ".intercalate function.otherNames
  String.ofList
    (withoutEnd (name ++ padding ++ ' ' :: others.toList) ++
      ['\n'])

/- The list of functions. -/
def functionList
    (asJson : Bool) :
    String :=
  if asJson then
    functionDocument.toIndented ++ "\n"
  else
    String.join (Function.all.map functionLine)

end CommandLine

end Spreadsheet

------------------------------------------------------------
-- Responding
------------------------------------------------------------

namespace Spreadsheet

namespace CommandLine

namespace Command

/- The response to a command. -/
def respond
    (read : DocumentReader)
    (files : Files)
    (surroundings : Surroundings) :
    Command → Response
  | help => .answer usageLine []
  | version => .answer versionLine []
  | evaluate request =>
      CommandLine.evaluate read files surroundings request
  | tokens formula => .answer (tokenLines formula) []
  | references formula => CommandLine.references formula
  | functions asJson => .answer (functionList asJson) []

end Command

/-
  The response to a command line, where documents are read off
  files in a given way.
-/
def respondBy
    (read : DocumentReader)
    (files : Files)
    (surroundings : Surroundings)
    (arguments : List String) :
    Response :=
  match Command.ofArguments? arguments with
  | some command => command.respond read files surroundings
  | none => .ofRefusal .usage

/- The response to a command line, with files in YAML. -/
def respond
    (files : Files)
    (surroundings : Surroundings)
    (arguments : List String) :
    Response :=
  respondBy Document.ofYaml files surroundings arguments

end CommandLine

end Spreadsheet
