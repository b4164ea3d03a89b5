/-
  Options among arguments.

  An option starts with a dash.  Some options take a value,
  which stands behind an equals sign or is the next argument;
  the others are flags.  Two dashes end the options, and a
  single dash is no option.

  Key definitions include:
    * `Spreadsheet.CommandLine.OptionNames`
    * `Spreadsheet.CommandLine.Options`
    * `Spreadsheet.CommandLine.OptionNames.read`
-/

------------------------------------------------------------
-- Options
------------------------------------------------------------

namespace Spreadsheet

namespace CommandLine

/-
  The names of the flags and of the options with values, and
  whether options may stand behind other arguments.
-/
structure OptionNames where
  flags : List String
  valued : List String
  interspersed : Bool

/- What was found among arguments, in order. -/
structure Options where
  flags : List String
  values : List (String × String)
  others : List String
deriving DecidableEq, Repr

namespace Options

/- Nothing was found. -/
def none : Options := ⟨[], [], []⟩

/- A flag was given. -/
def hasFlag
    (options : Options)
    (name : String) :
    Bool :=
  options.flags.contains name

/- All values of an option, in order. -/
def all
    (options : Options)
    (name : String) :
    List String :=
  (options.values.filter fun entry => entry.1 = name).map
    fun entry => entry.2

/- The last value of an option. -/
def last?
    (options : Options)
    (name : String) :
    Option String :=
  (options.all name).getLast?

/- Add a flag in front. -/
def addFlag
    (name : String)
    (options : Options) :
    Options :=
  { options with flags := name :: options.flags }

/- Add a value in front. -/
def addValue
    (name value : String)
    (options : Options) :
    Options :=
  { options with values := (name, value) :: options.values }

/- Add another argument in front. -/
def addOther
    (argument : String)
    (options : Options) :
    Options :=
  { options with others := argument :: options.others }

end Options

end CommandLine

end Spreadsheet

------------------------------------------------------------
-- Reading Options
------------------------------------------------------------

namespace Spreadsheet

namespace CommandLine

/- An argument that is an option or two dashes. -/
def startsWithDash
    (argument : String) :
    Bool :=
  match argument.toList with
  | '-' :: _ :: _ => true
  | _ => false

/- The name of an option and the value behind it, if any. -/
def splitOption
    (argument : String) :
    String × Option String :=
  let text := argument.toList
  let name := String.ofList (text.takeWhile (· ≠ '='))
  match text.dropWhile (· ≠ '=') with
  | [] => (name, none)
  | _ :: value => (name, some (String.ofList value))

/-
  The options among arguments.  There are none if an option
  has no such name, lacks its value or must not have one.
-/
def OptionNames.read
    (names : OptionNames) :
    List String → Option Options
  | [] => some .none
  | argument :: rest =>
      if argument = "--" then
        some { Options.none with others := rest }
      else if startsWithDash argument then
        let (name, value?) := splitOption argument
        match names.flags.contains name,
            names.valued.contains name, value? with
        | true, _, none =>
            (names.read rest).map (·.addFlag name)
        | false, true, some value =>
            (names.read rest).map (·.addValue name value)
        | false, true, none =>
            match rest with
            | value :: rest =>
                (names.read rest).map (·.addValue name value)
            | [] => none
        | _, _, _ => none
      else if names.interspersed then
        (names.read rest).map (·.addOther argument)
      else
        some { Options.none with others := argument :: rest }

end CommandLine

end Spreadsheet
