import Spreadsheet.CommandLine.Options

/-
  Commands.

  The arguments of a command line name one of four commands:
  evaluate a formula, show its tokens, show what it refers to
  or list the functions.  Options in front of the name ask for
  the version or for help.

  Key definitions include:
    * `Spreadsheet.CommandLine.Request`
    * `Spreadsheet.CommandLine.Command`
    * `Spreadsheet.CommandLine.Command.ofArguments?`
-/

------------------------------------------------------------
-- Commands
------------------------------------------------------------

namespace Spreadsheet

namespace CommandLine

/-
  A formula to evaluate, with the cells that are given, the
  path of a configuration, the directory of a log and whether
  the answer is wanted as JSON.
-/
structure Request where
  formula : String
  cells : List String
  configuration : Option String
  logDirectory : Option String
  asJson : Bool
deriving DecidableEq, Repr

/- What a command line asks for. -/
inductive Command where
  | help
  | version
  | evaluate (request : Request)
  | tokens (formula : String)
  | references (formula : String)
  | functions (asJson : Bool)
deriving DecidableEq, Repr

end CommandLine

end Spreadsheet

------------------------------------------------------------
-- Reading Commands
------------------------------------------------------------

namespace Spreadsheet

namespace CommandLine

/- The options in front of the name of a command. -/
def programOptions : OptionNames :=
  ⟨["--help", "--version"], [], false⟩

/- The options of the command that evaluates. -/
def evaluateOptions : OptionNames :=
  ⟨["--help", "--json"],
    ["--cell", "--config", "--log-dir"], true⟩

/- The options of commands on a formula. -/
def formulaOptions : OptionNames :=
  ⟨["--help"], [], true⟩

/- The options of the command that lists functions. -/
def functionsOptions : OptionNames :=
  ⟨["--help", "--json"], [], true⟩

namespace Command

/- A command with options, unless help is asked for. -/
def unlessHelp
    (command : Options → Option Command)
    (options : Options) :
    Option Command :=
  if options.hasFlag "--help" then
    some help
  else
    command options

/- A command on the one formula that is given. -/
def onFormula
    (command : String → Options → Command)
    (options : Options) :
    Option Command :=
  match options.others with
  | [formula] => some (command formula options)
  | _ => none

/- The request to evaluate a formula. -/
def evaluateWith
    (formula : String)
    (options : Options) :
    Command :=
  evaluate {
    formula
    cells := options.all "--cell"
    configuration := options.last? "--config"
    logDirectory := options.last? "--log-dir"
    asJson := options.hasFlag "--json"
  }

/- The list of functions, which takes no other arguments. -/
def functionsWith
    (options : Options) :
    Option Command :=
  if options.others.isEmpty then
    some (functions (options.hasFlag "--json"))
  else
    none

/- The command of a name with arguments. -/
def named?
    (name : String)
    (arguments : List String) :
    Option Command :=
  match name with
  | "eval" =>
      (evaluateOptions.read arguments).bind
        (unlessHelp (onFormula evaluateWith))
  | "tokens" =>
      (formulaOptions.read arguments).bind
        (unlessHelp (onFormula fun formula _ =>
          tokens formula))
  | "refs" =>
      (formulaOptions.read arguments).bind
        (unlessHelp (onFormula fun formula _ =>
          references formula))
  | "functions" =>
      (functionsOptions.read arguments).bind
        (unlessHelp functionsWith)
  | _ => none

/- The command that arguments ask for, if they are in order. -/
def ofArguments?
    (arguments : List String) :
    Option Command := do
  let options ← programOptions.read arguments
  match options.flags, options.others with
  | "--version" :: _, _ => some version
  | _ :: _, _ => some help
  | [], name :: arguments => named? name arguments
  | [], [] => none

end Command

end CommandLine

end Spreadsheet
