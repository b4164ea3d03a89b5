import Spreadsheet.Proofs.Evaluation.Formula
import Spreadsheet.Proofs.Function.Fault

/-
  Where the faults of a formula come from.

  On the way to the value of a formula labels and areas are
  read, and operators and functions are applied to the values
  of operands and arguments.  Nothing in a formula catches a
  fault of the machine.  So a formula comes to a fault exactly
  if an answer about a cell is this fault or one of these
  applications fails with it, and an application does so only
  by one of a few slips.

  Key definitions include:
    * `Spreadsheet.Application`
    * `Spreadsheet.Application.Fails`
    * `Spreadsheet.Application.Slips`
    * `Spreadsheet.Expr.applications`
    * `Spreadsheet.Inquiry.Accounts`

  Main results:
    * `Spreadsheet.Application.slips_of_fails`
    * `Spreadsheet.Inquiry.questions_andThen`
    * `Spreadsheet.Expr.value_accounts`
-/

------------------------------------------------------------
-- Applications
------------------------------------------------------------

namespace Spreadsheet

/- A single step on the way to a value, with all it is given. -/
inductive Application where
  | literal (raw : String)
  | label (written : String)
  | area (written : String)
  | total (values : List Value)
  | unary (op : UnaryOp) (operand : Value)
  | binary (op : BinaryOp) (left right : Value)
  | call (call : Call)

namespace Application

/- An application fails in some way. -/
def Fails
    (application : Application)
    (failure : Failure) : Prop :=
  match application with
  | literal raw => Value.ofLiteral raw = .error failure
  | label written =>
      (Cell.ofLabel written).mapError Failure.label =
        .error failure
  | area written =>
      (Area.ofText written).mapError Failure.label =
        .error failure
  | total values => Value.totalOf values = .error failure
  | unary op operand => op.apply operand = .error failure
  | binary op left right =>
      op.deliver left right = .error failure
  | call performed =>
      performed.delivered = .settled (.error failure)

end Application

end Spreadsheet

------------------------------------------------------------
-- Slips
------------------------------------------------------------

namespace Spreadsheet

/- The number of characters behind the column of a label. -/
def Cell.rowLength
    (label : String) :
    Nat :=
  let text := Text.upper (Text.trim label.toList)
  (text.dropWhile isColumnLetter).length

/- The labels of the two corners of an area. -/
def Area.corners
    (text : String) :
    List String :=
  let chars := text.toList
  [String.ofList (chars.takeWhile (· ≠ ':')),
    String.ofList (chars.dropWhile (· ≠ ':')).tail]

namespace Application

/- The values that an application may read as numbers. -/
def values :
    Application → List Value
  | literal raw => [.text raw]
  | total values => values
  | unary _ operand => [operand]
  | binary _ left right => [left, right]
  | _ => []

/- The labels that an application reads. -/
def labels :
    Application → List String
  | label written => [written]
  | area written => Area.corners written
  | _ => []

/-
  The faults of applications and what they come from: a text
  that is too great, a row number with too many digits, texts
  that are too long when they are joined, or the slip of a
  call.
-/
inductive Slips :
    Application → Failure → Prop where
  | value
      {application : Application}
      {value : Value}
      (hValue : value ∈ application.values)
      (hGreat : value.IsTooGreat) :
      Slips application .wholeTooGreat
  | row
      {application : Application}
      {label : String}
      (hLabel : label ∈ application.labels)
      (hLong :
        Text.longestNumeral < Cell.rowLength label) :
      Slips application
        (.label (.rowTooLong (Cell.rowLength label)))
  | joined
      {left right : Value}
      (hLong : lengthLimit ≤
        left.toText.length + right.toText.length) :
      Slips (.binary .concat left right) .joinedTooLong
  | call
      {call : Call}
      {failure : Failure}
      (hSlips : call.Slips failure) :
      Slips (.call call) failure

end Application

end Spreadsheet

------------------------------------------------------------
-- Faults Of Applications
------------------------------------------------------------

namespace Spreadsheet

/- A row number that is not read has too many digits. -/
theorem Cell.rowLength_of_ofLabel
    {label : String}
    {digits : Nat}
    (hLabel : Cell.ofLabel label =
      .error (.rowTooLong digits)) :
    digits = Cell.rowLength label ∧
      Text.longestNumeral < Cell.rowLength label := by
  simp only [ofLabel] at hLabel
  split at hLabel
  · cases hLabel
  · split at hLabel
    · rename_i hLong
      cases hLabel
      exact ⟨rfl, hLong⟩
    · split at hLabel <;> cases hLabel

/- An area fails as one of its corners does, or has none. -/
theorem Area.corner_of_ofText
    {text : String}
    {digits : Nat}
    (hText : Area.ofText text =
      .error (.rowTooLong digits)) :
    ∃ label ∈ Area.corners text,
      Cell.ofLabel label = .error (.rowTooLong digits) := by
  simp only [ofText] at hText
  split at hText
  · cases hText
  · rename_i c stop hDrop
    cases hFirst :
        Cell.ofLabel (String.ofList
          (text.toList.takeWhile (· ≠ ':'))) with
    | error fault =>
        rw [hFirst] at hText
        cases hText
        exact ⟨_, List.mem_cons_self, hFirst⟩
    | ok first =>
        cases hLast : Cell.ofLabel (String.ofList stop) with
        | error fault =>
            rw [hFirst, hLast] at hText
            cases hText
            refine ⟨_, ?_, hLast⟩
            rw [corners, hDrop]
            exact List.mem_cons_of_mem _ List.mem_cons_self
        | ok last =>
            rw [hFirst, hLast] at hText
            cases hText

namespace Application

variable {application : Application}
variable {fault : Failure}

/- A label fails with a fault only if it is overlong. -/
theorem exists_of_label
    {α : Type}
    {result : Except LabelFault α}
    (hFault : fault.isFormulaError = false)
    (hFails :
      result.mapError Failure.label = .error fault) :
    ∃ digits, fault = .label (.rowTooLong digits) ∧
      result = .error (.rowTooLong digits) := by
  cases result with
  | ok value => cases hFails
  | error cause =>
      cases hFails
      cases cause with
      | malformed label => cases hFault
      | rowTooLong digits => exact ⟨digits, rfl, rfl⟩

/- A slip is a fault of the machine. -/
theorem Slips.isFormulaError
    (hSlips : application.Slips fault) :
    fault.isFormulaError = false := by
  cases hSlips with
  | call hCall => exact hCall.isFormulaError
  | _ => rfl

/- No slip is that the memory has run out. -/
theorem Slips.ne_noMemory
    (hSlips : application.Slips fault) :
    fault ≠ .noMemory := by
  cases hSlips with
  | call hCall => cases hCall <;> simp
  | _ => simp

/- The faults of an application are its slips. -/
theorem slips_of_fails
    (hFault : fault.isFormulaError = false)
    (hFails : application.Fails fault) :
    application.Slips fault := by
  cases application with
  | literal raw =>
      have hFaults :
          FaultsOnly (literal raw).Slips
            (Value.ofLiteral raw) := by
        refine Value.faultsOnly_ofLiteral fun hGreat => ?_
        exact .value List.mem_cons_self hGreat
      exact hFaults fault hFails hFault
  | label written =>
      rcases exists_of_label hFault hFails with
        ⟨digits, rfl, hLabel⟩
      rcases Cell.rowLength_of_ofLabel hLabel with
        ⟨rfl, hLong⟩
      exact .row List.mem_cons_self hLong
  | area written =>
      rcases exists_of_label hFault hFails with
        ⟨digits, rfl, hText⟩
      rcases Area.corner_of_ofText hText with
        ⟨label, hCorner, hLabel⟩
      rcases Cell.rowLength_of_ofLabel hLabel with
        ⟨rfl, hLong⟩
      exact .row hCorner hLong
  | total values =>
      have hFaults :
          FaultsOnly (total values).Slips
            (Value.totalOf values) := by
        refine Value.faultsOnly_totalOf
          fun value hValue hGreat => ?_
        exact .value hValue hGreat
      exact hFaults fault hFails hFault
  | unary op operand =>
      have hFaults :
          FaultsOnly (unary op operand).Slips
            (op.apply operand) := by
        refine op.faultsOnly_apply fun hGreat => ?_
        exact .value List.mem_cons_self hGreat
      exact hFaults fault hFails hFault
  | binary op left right =>
      have hFaults :
          FaultsOnly (binary op left right).Slips
            (op.apply left right) := by
        refine op.faultsOnly_apply ?_ ?_
        · intro hGreat
          exact .value List.mem_cons_self hGreat
        · intro hGreat
          exact .value
            (List.mem_cons_of_mem _ List.mem_cons_self) hGreat
      rcases op.deliver_cases left right with hApply | hLong
      · rw [Fails, hApply] at hFails
        exact hFaults fault hFails hFault
      · rcases hLong with ⟨rfl, hLong, hFailed⟩
        rw [Fails, hFailed] at hFails
        cases hFails
        exact .joined hLong
  | call performed =>
      have hDelivered := performed.faultsOnly_delivered
      rw [Fails] at hFails
      rw [hFails] at hDelivered
      exact .call (hDelivered fault rfl hFault)

end Application

end Spreadsheet

------------------------------------------------------------
-- Applications Of A Formula
------------------------------------------------------------

namespace Spreadsheet

namespace Inquiry

variable {α : Type}
variable (surroundings : Surroundings)
variable (resolve : Cell → Run Value)

/- What follows on the value of an inquiry, if it has one. -/
def whenValue
    (inquiry : Inquiry α)
    (follow : α → Progress → List Application)
    (progress : Progress) :
    List Application :=
  let outcome :=
    (inquiry.run surroundings resolve).outcome progress
  match outcome.1 with
  | .ok value => follow value outcome.2
  | .error _ => []

/- What follows on a failure of an inquiry that is caught. -/
def whenCaught
    (inquiry : Inquiry α)
    (follow : Progress → List Application)
    (progress : Progress) :
    List Application :=
  let outcome :=
    (inquiry.run surroundings resolve).outcome progress
  match outcome.1 with
  | .ok _ => []
  | .error failure =>
      if failure.isCaught then follow outcome.2 else []

end Inquiry

namespace Expr

/-
  The applications of an argument: those of the formula, but
  of an area no total is taken.
-/
def asArgument
    (argument : Expr)
    (applications : List Application) :
    List Application :=
  match argument with
  | range written => [.area (upperName written)]
  | _ => applications

variable (surroundings : Surroundings)
variable (resolve : Cell → Run Value)

mutual

/-
  The applications on the way to the value of a formula, in
  order, without those of the cells that it asks about.
-/
def applications :
    Expr → Progress → List Application
  | number _, _ => []
  | string _, _ => []
  | word _, _ => []
  | boolean _, _ => []
  | cell written, _ => [.label (upperName written)]
  | range written, progress =>
      [.area (upperName written)] ++
        (areaValues written).whenValue surroundings resolve
          (fun values _ => [.total values]) progress
  | unary op operand, progress =>
      applications operand progress ++
        (value operand).whenValue surroundings resolve
          (fun x _ => [.unary op x]) progress
  | binary op left right, progress =>
      applications left progress ++
        (value left).whenValue surroundings resolve
          (fun a after =>
            applications right after ++
              (value right).whenValue surroundings resolve
                (fun b _ => [.binary op a b]) after)
          progress
  | call name arguments, progress =>
      let name := upperName name
      if Function.named? name = some .ifError then
        attemptApplications arguments progress
      else
        argumentApplications arguments progress ++
          (argumentValues arguments).whenValue surroundings
            resolve
            (fun arguments _ =>
              (Function.named? name).toList.map fun function =>
                .call (Call.ofArguments function arguments))
            progress
termination_by structural formula => formula

/- The applications of an attempt and of its fallback. -/
def attemptApplications :
    List Expr → Progress → List Application
  | [tried], progress => applications tried progress
  | [tried, fallback], progress =>
      applications tried progress ++
        (value tried).whenCaught surroundings resolve
          (applications fallback) progress
  | _, _ => []
termination_by structural arguments => arguments

/- The applications on the way to the values of arguments. -/
def argumentApplications :
    List Expr → Progress → List Application
  | [], _ => []
  | argument :: rest, progress =>
      argument.asArgument (applications argument progress) ++
        (argumentValue argument).whenValue surroundings
          resolve (fun _ => argumentApplications rest)
          progress
termination_by structural arguments => arguments

end

end Expr

end Spreadsheet

------------------------------------------------------------
-- Accounts Of Faults
------------------------------------------------------------

namespace Spreadsheet

namespace Inquiry

variable {α β : Type}

/-
  A run comes to a fault exactly if one of its answers is the
  fault or one of its applications fails with it.
-/
def Accounts
    (surroundings : Surroundings)
    (resolve : Cell → Run Value)
    (fault : Failure)
    (inquiry : Inquiry α)
    (applications : Progress → List Application) : Prop :=
  ∀ progress,
    ((inquiry.run surroundings resolve).outcome
        progress).1 = .error fault ↔
      (∃ visit ∈
          inquiry.questions surroundings resolve progress,
        ((resolve visit.cell).outcome visit.progress).1 =
          .error fault) ∨
      ∃ application ∈ applications progress,
        application.Fails fault

variable {surroundings : Surroundings}
variable {resolve : Cell → Run Value}
variable {fault : Failure}

/- A result that is no fault takes no application. -/
theorem accounts_settled
    {result : Except Failure α}
    (hResult : result ≠ .error fault) :
    Accounts surroundings resolve fault (settled result)
      fun _ => [] := by
  intro progress
  simp [questions, hResult]

/- A result fails as the application that it is the result of. -/
theorem accounts_application
    {result : Except Failure α}
    {application : Application}
    (hResult :
      result = .error fault ↔ application.Fails fault) :
    Accounts surroundings resolve fault (settled result)
      fun _ => [application] := by
  intro progress
  simp [questions, hResult]

/-
  What follows on a fault is the fault itself, and what
  follows on any other result accounts for the rest.
-/
theorem Accounts.andThen
    {inquiry : Inquiry α}
    {applications : Progress → List Application}
    {follow : Except Failure α → Inquiry β}
    (hAccounts : Accounts surroundings resolve fault inquiry
      applications)
    (more :
      Except Failure α → Progress → List Application)
    (hFault : follow (.error fault) = settled (.error fault))
    (hFollow : ∀ result, result ≠ .error fault →
      Accounts surroundings resolve fault (follow result)
        (more result)) :
    Accounts surroundings resolve fault
      (inquiry.andThen follow) fun progress =>
        let outcome :=
          (inquiry.run surroundings resolve).outcome progress
        applications progress ++
          more outcome.1 outcome.2 := by
  intro progress
  have hFirst := hAccounts progress
  rw [outcome_andThen, questions_andThen]
  simp only [List.mem_append, or_and_right, exists_or]
  by_cases hResult :
      ((inquiry.run surroundings resolve).outcome
        progress).1 = .error fault
  · rw [hResult, hFault]
    rcases hFirst.mp hResult with hAnswer | hApplication
    · simp [hAnswer]
    · simp [hApplication]
  · have hNone := mt hFirst.mpr hResult
    rw [not_or] at hNone
    rw [hFollow _ hResult]
    simp only [hNone.1, hNone.2, false_or]

theorem Accounts.bind
    {inquiry : Inquiry α}
    {applications : Progress → List Application}
    {follow : α → Inquiry β}
    {more : α → Progress → List Application}
    (hAccounts : Accounts surroundings resolve fault inquiry
      applications)
    (hFollow : ∀ value,
      Accounts surroundings resolve fault (follow value)
        (more value)) :
    Accounts surroundings resolve fault (inquiry >>= follow)
      fun progress => applications progress ++
        inquiry.whenValue surroundings resolve more
          progress := by
  refine hAccounts.andThen
    (fun result after =>
      match result with
      | .ok value => more value after
      | .error _ => [])
    rfl ?_
  intro result hResult
  cases result with
  | ok value => exact hFollow value
  | error failure =>
      refine accounts_settled ?_
      rintro ⟨rfl⟩
      exact hResult rfl

@[simp] theorem whenValue_none
    (inquiry : Inquiry α)
    (progress : Progress) :
    inquiry.whenValue surroundings resolve (fun _ _ => [])
      progress = [] := by
  unfold whenValue
  dsimp only
  split <;> rfl

@[simp] theorem whenCaught_none
    (inquiry : Inquiry α)
    (progress : Progress) :
    inquiry.whenCaught surroundings resolve (fun _ => [])
      progress = [] := by
  unfold whenCaught
  dsimp only
  split
  · rfl
  · exact ite_self []

/- What is done to a value only takes no application. -/
theorem Accounts.map
    {inquiry : Inquiry α}
    {applications : Progress → List Application}
    (hAccounts : Accounts surroundings resolve fault inquiry
      applications)
    (change : α → β) :
    Accounts surroundings resolve fault (change <$> inquiry)
      applications := by
  have hPure :
      ∀ value, Accounts surroundings resolve fault
        (pure (change value)) fun _ => [] :=
    fun _ => accounts_settled (by simp)
  rw [map_eq_pure_bind]
  simpa only [whenValue_none, List.append_nil] using
    hAccounts.bind hPure

/- A fault is not caught, so that no fallback follows on it. -/
theorem Accounts.orElse
    (hFault : fault.isFormulaError = false)
    {tried fallback : Inquiry α}
    {applications more : Progress → List Application}
    (hTried : Accounts surroundings resolve fault tried
      applications)
    (hFallback : Accounts surroundings resolve fault fallback
      more) :
    Accounts surroundings resolve fault
      (tried.orElse fallback)
      fun progress => applications progress ++
        tried.whenCaught surroundings resolve more
          progress := by
  have hUncaught : fault.isCaught = false := by
    rw [Failure.isCaught, hFault]
    rfl
  refine hTried.andThen
    (fun result after =>
      match result with
      | .ok _ => []
      | .error failure =>
          if failure.isCaught then more after else [])
    (by simp [rescue, hUncaught]) ?_
  intro result hResult
  cases result with
  | ok value => exact accounts_settled hResult
  | error failure =>
      by_cases hCaught : failure.isCaught = true
      · simpa only [rescue, hCaught, if_true] using hFallback
      · simpa only [rescue, if_neg hCaught] using
          accounts_settled hResult

theorem accounts_ofCell
    (cell : Cell) :
    Accounts surroundings resolve fault (ofCell cell)
      fun _ => [] := by
  intro progress
  simp [ofCell, questions]

theorem accounts_mapM_ofCell
    (cells : List Cell) :
    Accounts surroundings resolve fault (cells.mapM ofCell)
      fun _ => [] := by
  induction cells with
  | nil => exact accounts_settled (by simp)
  | cons cell rest ih =>
      rw [List.mapM_cons]
      simp only [← map_eq_pure_bind]
      have hRest :
          ∀ value, Accounts surroundings resolve fault
            ((value :: ·) <$> rest.mapM ofCell)
            fun _ => [] :=
        fun value => ih.map (value :: ·)
      simpa only [whenValue_none, List.append_nil] using
        (accounts_ofCell cell).bind hRest

/- The value of a label takes a reading of the label. -/
theorem accounts_ofLabel
    (written : String) :
    Accounts surroundings resolve fault (ofLabel written)
      fun _ => [.label written] := by
  have hLabel :
      Accounts surroundings resolve fault
        (settled ((Cell.ofLabel written).mapError
          Failure.label))
        fun _ => [.label written] :=
    accounts_application Iff.rfl
  unfold ofLabel
  simpa only [whenValue_none, List.append_nil] using
    hLabel.bind accounts_ofCell

/- The values of an area take a reading of its corners. -/
theorem accounts_ofArea
    (written : String) :
    Accounts surroundings resolve fault (ofArea written)
      fun _ => [.area written] := by
  have hArea :
      Accounts surroundings resolve fault
        (settled ((Area.ofText written).mapError
          Failure.label))
        fun _ => [.area written] :=
    accounts_application Iff.rfl
  unfold ofArea
  simpa only [whenValue_none, List.append_nil] using
    hArea.bind fun area => accounts_mapM_ofCell area.cells

/-
  What is drawn or read off the clock comes to no fault, and
  the memory to none but its own.
-/
theorem accounts_ofAnswer
    (hFault : fault.isFormulaError = false)
    (hMemory : fault ≠ .noMemory)
    (call : Call) :
    Accounts surroundings resolve fault
      (ofAnswer call.delivered) fun _ => [.call call] := by
  have hAnswer := call.faultsOnly_delivered
  intro progress
  cases hResult : call.delivered with
  | settled result =>
      simp [ofAnswer, questions, Application.Fails, hResult]
  | drawing result =>
      rw [hResult] at hAnswer
      have hNone :
          result (surroundings.random progress.drawn) ≠
            .error fault :=
        fun hFailed => hAnswer _ fault hFailed hFault
      simp [ofAnswer, questions, Application.Fails, hResult,
        hNone]
  | dating result =>
      rw [hResult] at hAnswer
      have hNone :
          result (surroundings.clock progress.looked) ≠
            .error fault :=
        fun hFailed => hAnswer _ fault hFailed hFault
      simp [ofAnswer, questions, Application.Fails, hResult,
        hNone]
  | fitting length result =>
      rw [hResult] at hAnswer
      have hNone :
          result (surroundings.fits length) ≠
            .error fault :=
        fun hFailed =>
          hMemory (hAnswer _ fault hFailed hFault)
      simp [ofAnswer, questions, Application.Fails, hResult,
        hNone]

end Inquiry

end Spreadsheet

------------------------------------------------------------
-- Accounts Of Formulas
------------------------------------------------------------

namespace Spreadsheet

namespace Expr

open Inquiry

variable {surroundings : Surroundings}
variable {resolve : Cell → Run Value}
variable {fault : Failure}

/- A number as it is written is at worst malformed. -/
theorem numberValue_ne
    (hFault : fault.isFormulaError = false)
    (written : String) :
    numberValue written ≠ .error fault := by
  unfold numberValue
  split
  · simp
  · rintro ⟨rfl⟩
    cases hFault

theorem accounts_performNamed
    (hFault : fault.isFormulaError = false)
    (hMemory : fault ≠ .noMemory)
    (name : String)
    (arguments : List Argument) :
    Accounts surroundings resolve fault
      (Call.performNamed name arguments) fun _ =>
        (Function.named? name).toList.map fun function =>
          .call (Call.ofArguments function arguments) := by
  unfold Call.performNamed
  cases Function.named? name with
  | some function =>
      exact accounts_ofAnswer hFault hMemory _
  | none =>
      refine accounts_settled ?_
      rintro ⟨rfl⟩
      cases hFault

/- An area as an argument takes a reading of its corners. -/
theorem argument_accounts
    {argument : Expr}
    (hValue : Accounts surroundings resolve fault
      argument.value
      (applications surroundings resolve argument)) :
    Accounts surroundings resolve fault
      argument.argumentValue fun progress =>
        argument.asArgument
          (applications surroundings resolve argument
            progress) := by
  cases argument
  case range written =>
      rw [argumentValue]
      exact (accounts_ofArea (upperName written)).map
        Argument.area
  all_goals
    simp only [argumentValue]
    exact hValue.map Argument.scalar

mutual

/- A formula accounts for its faults by its applications. -/
theorem value_accounts
    (hFault : fault.isFormulaError = false)
    (hMemory : fault ≠ .noMemory) :
    ∀ (formula : Expr),
      Accounts surroundings resolve fault formula.value
        (applications surroundings resolve formula)
  | .number written => by
      rw [value]
      exact accounts_settled (numberValue_ne hFault written)
  | .string _ => by
      rw [value]
      exact accounts_settled (by simp)
  | .word _ => by
      rw [value]
      exact accounts_settled (by simp)
  | .boolean _ => by
      rw [value]
      exact accounts_settled (by simp)
  | .cell written => by
      rw [value]
      exact accounts_ofLabel (upperName written)
  | .range written => by
      have hArea :
          Accounts surroundings resolve fault
            (areaValues written)
            fun _ => [.area (upperName written)] :=
        accounts_ofArea (upperName written)
      have hTotal :
          ∀ values, Accounts surroundings resolve fault
            (settled (Value.totalOf values))
            fun _ => [.total values] :=
        fun _ => accounts_application Iff.rfl
      rw [value]
      simp only [← map_eq_pure_bind]
      exact hArea.bind fun values =>
        (hTotal values).map Value.number
  | .unary op operand => by
      rw [value]
      exact (value_accounts hFault hMemory operand).bind
        fun x => accounts_application Iff.rfl
  | .binary op left right => by
      rw [value]
      exact (value_accounts hFault hMemory left).bind fun a =>
        (value_accounts hFault hMemory right).bind fun b =>
          accounts_application Iff.rfl
  | .call name arguments => by
      have hAttempt :=
        attempt_accounts hFault hMemory arguments
      have hCall :=
        (arguments_account hFault hMemory arguments).bind
          (accounts_performNamed hFault hMemory
            (upperName name))
      intro progress
      rw [value, applications]
      split
      · exact hAttempt progress
      · exact hCall progress

/- An attempt accounts for its own and its fallback's. -/
theorem attempt_accounts
    (hFault : fault.isFormulaError = false)
    (hMemory : fault ≠ .noMemory) :
    ∀ (arguments : List Expr),
      Accounts surroundings resolve fault
        (attemptValue arguments)
        (attemptApplications surroundings resolve arguments)
  | [] => by
      rw [attemptValue]
      exact accounts_settled (by simp)
  | [tried] => by
      have hEmpty :
          Accounts surroundings resolve fault
            (pure Value.empty) fun _ => [] :=
        accounts_settled (by simp)
      have hTried :=
        (value_accounts hFault hMemory tried).orElse hFault
          hEmpty
      simp only [whenCaught_none, List.append_nil] at hTried
      rw [attemptValue]
      exact hTried
  | [tried, fallback] => by
      rw [attemptValue]
      exact (value_accounts hFault hMemory tried).orElse hFault
        (value_accounts hFault hMemory fallback)
  | _ :: _ :: _ :: _ => by
      simp only [attemptValue]
      refine accounts_settled ?_
      rintro ⟨rfl⟩
      cases hFault

/- Arguments account for theirs. -/
theorem arguments_account
    (hFault : fault.isFormulaError = false)
    (hMemory : fault ≠ .noMemory) :
    ∀ (arguments : List Expr),
      Accounts surroundings resolve fault
        (argumentValues arguments)
        (argumentApplications surroundings resolve arguments)
  | [] => by
      rw [argumentValues]
      exact accounts_settled (by simp)
  | argument :: rest => by
      have hRest := arguments_account hFault hMemory rest
      rw [argumentValues_cons]
      simp only [← map_eq_pure_bind]
      exact (argument_accounts
        (value_accounts hFault hMemory argument)).bind
          fun first => hRest.map (first :: ·)

end

end Expr

end Spreadsheet
