import Spreadsheet.Evaluation.Formula
import Spreadsheet.Proofs.Evaluation.Inquiry
import Spreadsheet.Proofs.Function.Failure

/-
  The questions that formulas ask.

  The references of a formula can be read off it without
  evaluating it.  Whatever the answers are, its evaluation
  asks about no other cells, draws random numbers only if it
  calls a function that does, and passes on the failures that
  cannot be caught.  This and other properties of the value of
  a formula come from those of the parts that it is put
  together from.

  Key definitions include:
    * `Spreadsheet.Expr.RefersTo`
    * `Spreadsheet.Expr.functions`
    * `Spreadsheet.Expr.IsRandom`
    * `Spreadsheet.Inquiry.Binds`
    * `Spreadsheet.Inquiry.Composes`

  Main results:
    * `Spreadsheet.Expr.value_call`
    * `Spreadsheet.Expr.value_holds`
    * `Spreadsheet.Expr.value_within`
-/

------------------------------------------------------------
-- Names Of References
------------------------------------------------------------

namespace Spreadsheet

theorem mem_insertName_iff
    (name other : String)
    (names : List String) :
    other ∈ insertName name names ↔
      other = name ∨ other ∈ names := by
  induction names with
  | nil => simp [insertName]
  | cons first rest ih =>
      unfold insertName
      by_cases hSame : name = first
      · simp [hSame]
      · by_cases hLess : name < first
        · simp [hSame, hLess]
        · simp only [hSame, hLess, if_false, List.mem_cons,
            ih]
          exact or_left_comm

@[simp] theorem mem_sortNames_iff
    (name : String)
    (names : List String) :
    name ∈ sortNames names ↔ name ∈ names := by
  induction names with
  | nil => simp [sortNames]
  | cons first rest ih =>
      have hStep :
          sortNames (first :: rest) =
            insertName first (sortNames rest) := rfl
      rw [hStep, mem_insertName_iff, ih, List.mem_cons]

/- The cells that a reference is about, if it is well formed. -/
def Reference.Names
    (reference : Reference)
    (cell : Cell) : Prop :=
  match reference with
  | .cell written =>
      Cell.ofLabel (Expr.upperName written) = .ok cell
  | .range written =>
      ∃ area,
        Area.ofText (Expr.upperName written) = .ok area ∧
          cell ∈ area.cells

namespace Expr

/-
  A formula refers to the cells of its well-formed names of
  cells and areas.
-/
def RefersTo
    (formula : Expr)
    (cell : Cell) : Prop :=
  (∃ name ∈ formula.cellNames,
      Cell.ofLabel name = .ok cell) ∨
    ∃ name ∈ formula.rangeNames,
      ∃ area, Area.ofText name = .ok area ∧
        cell ∈ area.cells

/- A formula refers to what its references are about. -/
theorem refersTo_of_names
    {formula : Expr}
    {reference : Reference}
    {cell : Cell}
    (hReference : reference ∈ formula.references)
    (hNames : reference.Names cell) :
    formula.RefersTo cell := by
  cases reference with
  | cell written =>
      refine Or.inl ⟨upperName written, ?_, hNames⟩
      rw [cellNames, mem_sortNames_iff, List.mem_filterMap]
      exact ⟨.cell written, hReference, rfl⟩
  | range written =>
      refine Or.inr ⟨upperName written, ?_, hNames⟩
      rw [rangeNames, mem_sortNames_iff, List.mem_filterMap]
      exact ⟨.range written, hReference, rfl⟩

end Expr

end Spreadsheet

------------------------------------------------------------
-- Functions That Are Called
------------------------------------------------------------

namespace Spreadsheet

/- The functions whose value is a matter of chance. -/
def Function.isRandom :
    Function → Bool
  | rand => true
  | randBetween => true
  | _ => false

namespace Expr

mutual

/- The known functions that a formula calls, by any name. -/
def functions :
    Expr → List Function
  | .number _ => []
  | .string _ => []
  | .word _ => []
  | .boolean _ => []
  | .cell _ => []
  | .range _ => []
  | .call name arguments =>
      (Function.named? (upperName name)).toList ++
        functionsOf arguments
  | .unary _ operand => operand.functions
  | .binary _ left right => left.functions ++ right.functions
termination_by structural formula => formula

/- The known functions that formulas call. -/
def functionsOf :
    List Expr → List Function
  | [] => []
  | formula :: rest => formula.functions ++ functionsOf rest
termination_by structural formulas => formulas

end

/- A formula calls a function whose value is random. -/
def IsRandom
    (formula : Expr) : Prop :=
  ∃ function ∈ formula.functions, function.isRandom = true

end Expr

namespace Call

/- A repetition waits for no random number. -/
theorem repeatText_ne_drawing
    (call : Call)
    (result : Float → Except Failure Value) :
    call.repeatText ≠ .drawing result := by
  unfold repeatText
  split
  · split
    · simp
    · split <;> simp
  · simp

/- Only random functions wait for a random number. -/
theorem isRandom_of_answer_drawing
    {call : Call}
    {result : Float → Except Failure Value}
    (hAnswer : call.answer = .drawing result) :
    call.function.isRandom = true := by
  unfold answer at hAnswer
  cases hCheck : call.check with
  | error failure => simp [hCheck] at hAnswer
  | ok _ =>
      simp only [hCheck] at hAnswer
      unfold answerOf at hAnswer
      cases hFunction : call.function <;>
        simp_all [Function.isRandom, repeatText_ne_drawing]

theorem isRandom_of_delivered_drawing
    {call : Call}
    {result : Float → Except Failure Value}
    (hDelivered : call.delivered = .drawing result) :
    call.function.isRandom = true := by
  rcases call.delivered_cases with hAnswer | hFailed
  · rw [hAnswer] at hDelivered
    exact isRandom_of_answer_drawing hDelivered
  · rcases hFailed with ⟨failure, -, hFailed⟩
    rw [hFailed] at hDelivered
    cases hDelivered

end Call

end Spreadsheet

------------------------------------------------------------
-- Questions About References
------------------------------------------------------------

namespace Spreadsheet

namespace Inquiry

/-
  A property that settled inquiries have if they were not
  stopped, and that is passed on from one inquiry and from
  what follows on its value to both together.
-/
structure Binds
    (holds : ⦃α : Type⦄ → Inquiry α → Prop) : Prop where
  settled : ∀ {α : Type} {result : Except Failure α},
    Unstopped result → holds (.settled result)
  bind : ∀ {α β : Type} {inquiry : Inquiry α}
    {follow : α → Inquiry β},
    holds inquiry → (∀ value, holds (follow value)) →
      holds (inquiry >>= follow)

namespace Binds

variable {holds : ⦃α : Type⦄ → Inquiry α → Prop}

theorem pure
    (hBinds : Binds holds)
    {α : Type}
    (value : α) :
    holds (pure value : Inquiry α) :=
  hBinds.settled (.of_ok value)

theorem map
    (hBinds : Binds holds)
    {α β : Type}
    {inquiry : Inquiry α}
    (change : α → β)
    (hInquiry : holds inquiry) :
    holds (change <$> inquiry) := by
  rw [map_eq_pure_bind]
  exact hBinds.bind hInquiry fun _ => hBinds.pure _

/- A label asks about the cell that it names, if any. -/
theorem ofLabel
    (hBinds : Binds holds)
    {label : String}
    (hCells : ∀ cell,
      Cell.ofLabel label = .ok cell → holds (ofCell cell)) :
    holds (ofLabel label) := by
  unfold Inquiry.ofLabel
  cases hLabel : Cell.ofLabel label with
  | error fault =>
      exact hBinds.settled
        ((Unstopped.error_iff _).mpr rfl)
  | ok cell => exact hCells cell hLabel

theorem mapM_ofCell
    (hBinds : Binds holds)
    (asked : List Cell)
    (hCells : ∀ cell ∈ asked, holds (ofCell cell)) :
    holds (asked.mapM ofCell) := by
  induction asked with
  | nil => exact hBinds.pure []
  | cons cell rest ih =>
      rw [List.mapM_cons]
      refine hBinds.bind (hCells cell (by simp)) ?_
      intro value
      refine hBinds.bind (ih ?_) fun _ => hBinds.pure _
      intro other hOther
      exact hCells other (by simp [hOther])

/- An area asks about its cells. -/
theorem ofArea
    (hBinds : Binds holds)
    {text : String}
    (hCells : ∀ area, Area.ofText text = .ok area →
      ∀ cell ∈ area.cells, holds (ofCell cell)) :
    holds (ofArea text) := by
  unfold Inquiry.ofArea
  cases hArea : Area.ofText text with
  | error fault =>
      exact hBinds.settled
        ((Unstopped.error_iff _).mpr rfl)
  | ok area =>
      exact hBinds.mapM_ofCell area.cells
        (hCells area hArea)

end Binds

variable {cells : Cell → Prop}
variable {random : Prop}

theorem binds_within :
    Binds fun _ inquiry => inquiry.Within cells random where
  settled _ := .settled _
  bind hInquiry hFollow := hInquiry.bind hFollow

theorem ofCell_within
    {cell : Cell}
    (hCell : cells cell) :
    (ofCell cell).Within cells random :=
  .asking hCell (fun _ _ => rfl) fun _ => .settled _

theorem ofLabel_within
    {label : String}
    (hCells : ∀ cell,
      Cell.ofLabel label = .ok cell → cells cell) :
    (ofLabel label).Within cells random :=
  binds_within.ofLabel fun cell hCell =>
    ofCell_within (hCells cell hCell)

theorem ofArea_within
    {text : String}
    (hCells : ∀ area, Area.ofText text = .ok area →
      ∀ cell ∈ area.cells, cells cell) :
    (ofArea text).Within cells random :=
  binds_within.ofArea fun area hArea cell hCell =>
    ofCell_within (hCells area hArea cell hCell)

end Inquiry

/- A call asks about no cell and may be one of chance. -/
theorem Call.ofAnswer_within
    {cells : Cell → Prop}
    {random : Prop}
    {call : Call}
    (hRandom : call.function.isRandom = true → random) :
    (Inquiry.ofAnswer call.delivered).Within cells random := by
  cases hDelivered : call.delivered with
  | settled result => exact .settled _
  | dating result => exact .dating fun now => .settled _
  | fitting length result =>
      exact .fitting fun fits => .settled _
  | drawing result =>
      exact .drawing
        (hRandom (isRandom_of_delivered_drawing hDelivered))
        fun number => .settled _

end Spreadsheet

------------------------------------------------------------
-- Questions Of Formulas
------------------------------------------------------------

namespace Spreadsheet

namespace Inquiry

/-
  A property that is passed on by all that a formula with some
  references and calls of some functions is put together from.
-/
structure Composes
    (holds : ⦃α : Type⦄ → Inquiry α → Prop)
    (references : List Reference)
    (functions : List Function) : Prop
    extends Binds holds where
  ofCell : ∀ reference ∈ references, ∀ cell,
    reference.Names cell → holds (ofCell cell)
  ofAnswer : ∀ function ∈ functions, ∀ arguments,
    holds (ofAnswer (Call.mk function arguments).delivered)
  orElse : .ifError ∈ functions →
    ∀ {tried fallback : Inquiry Value},
      holds tried → holds fallback →
        holds (tried.orElse fallback)

/- What a formula is put together from can only be less. -/
theorem Composes.mono
    {holds : ⦃α : Type⦄ → Inquiry α → Prop}
    {references some : List Reference}
    {functions few : List Function}
    (hComposes : Composes holds references functions)
    (hReferences : some ⊆ references)
    (hFunctions : few ⊆ functions) :
    Composes holds some few where
  settled := hComposes.settled
  bind := hComposes.bind
  ofCell reference hReference :=
    hComposes.ofCell reference (hReferences hReference)
  ofAnswer function hFunction :=
    hComposes.ofAnswer function (hFunctions hFunction)
  orElse hAttempts := hComposes.orElse (hFunctions hAttempts)

end Inquiry

namespace Expr

/- The value of an argument; an area stands for its values. -/
def argumentValue :
    Expr → Inquiry Argument
  | .range written => .area <$> areaValues written
  | argument => .scalar <$> value argument

/- An attempt with a fallback is the one or else the other. -/
theorem value_ifError
    {name : String}
    (hName : Function.named? (upperName name) = some .ifError)
    (tried fallback : Expr) :
    (call name [tried, fallback]).value =
      tried.value.orElse fallback.value := by
  rw [value]
  simp only [hName, if_true, attemptValue]

/- Other functions are called with the values of arguments. -/
theorem value_call
    {name : String}
    {function : Function}
    (hName : Function.named? (upperName name) = some function)
    (hOther : function ≠ .ifError)
    (arguments : List Expr) :
    (call name arguments).value =
      argumentValues arguments >>= fun values =>
        .ofAnswer
          (Call.ofArguments function values).delivered := by
  rw [value]
  simp only [hName, Option.some.injEq, hOther, if_false,
    Call.performNamed]

/- Where no text is made, a call is delivered as answered. -/
theorem value_call_answered
    {name : String}
    {function : Function}
    (hName : Function.named? (upperName name) = some function)
    (hOther : function ≠ .ifError)
    (hConcatenate : function ≠ .concatenate)
    (hSubstitute : function ≠ .substitute)
    (arguments : List Expr) :
    (call name arguments).value =
      argumentValues arguments >>= fun values =>
        .ofAnswer (Call.ofArguments function values).answer := by
  have hDelivered :
      ∀ values,
        (Call.ofArguments function values).delivered =
          (Call.ofArguments function values).answer := by
    intro values
    have hFunction :
        (Call.ofArguments function values).function =
          function := by
      unfold Call.ofArguments
      split <;> rfl
    apply Call.delivered_of_ne <;> rw [hFunction]
    · exact hConcatenate
    · exact hSubstitute
  simp only [value_call hName hOther, hDelivered]

theorem argumentValues_cons
    (argument : Expr)
    (rest : List Expr) :
    argumentValues (argument :: rest) =
      argumentValue argument >>= fun first =>
        argumentValues rest >>= fun others =>
          pure (first :: others) := by
  cases argument <;>
    simp only [argumentValues, argumentValue,
      map_eq_pure_bind, bind_assoc, pure_bind]

open Inquiry (Composes)

variable {holds : ⦃α : Type⦄ → Inquiry α → Prop}
variable {functions : List Function}

theorem argumentValue_holds
    {argument : Expr}
    (hComposes :
      Composes holds argument.references functions)
    (hValue : holds argument.value) :
    holds argument.argumentValue := by
  cases argument
  case range written =>
      rw [argumentValue]
      refine hComposes.map Argument.area
        (hComposes.ofArea ?_)
      intro area hArea cell hCell
      exact hComposes.ofCell (.range written)
        (by simp [references]) cell ⟨area, hArea, hCell⟩
  all_goals
    simp only [argumentValue]
    exact hComposes.map Argument.scalar hValue

theorem argumentValues_holds
    {arguments : List Expr}
    (hComposes :
      Composes holds (referencesOf arguments) functions)
    (hValues : ∀ argument ∈ arguments,
      holds argument.value) :
    holds (argumentValues arguments) := by
  induction arguments with
  | nil =>
      rw [argumentValues]
      exact hComposes.pure []
  | cons argument rest ih =>
      rw [argumentValues_cons]
      have hFirst :
          Composes holds argument.references functions :=
        hComposes.mono (by simp [referencesOf])
          (List.Subset.refl functions)
      have hRest :
          Composes holds (referencesOf rest) functions :=
        hComposes.mono (by simp [referencesOf])
          (List.Subset.refl functions)
      refine hComposes.bind
        (argumentValue_holds hFirst (hValues _ (by simp)))
        fun first => ?_
      refine hComposes.bind (ih hRest ?_) fun others => ?_
      · intro other hOther
        exact hValues other (by simp [hOther])
      · exact hComposes.pure _

theorem attemptValue_holds
    {references : List Reference}
    (hComposes : Composes holds references functions)
    (hAttempts : .ifError ∈ functions)
    {arguments : List Expr}
    (hValues : ∀ argument ∈ arguments,
      holds argument.value) :
    holds (attemptValue arguments) := by
  rcases arguments with _ | ⟨tried, _ | ⟨fallback, _ | _⟩⟩
  · rw [attemptValue]
    exact hComposes.pure _
  · rw [attemptValue]
    exact hComposes.orElse hAttempts (hValues _ (by simp))
      (hComposes.pure _)
  · rw [attemptValue]
    exact hComposes.orElse hAttempts (hValues _ (by simp))
      (hValues _ (by simp))
  · simp only [attemptValue]
    exact hComposes.settled ((Unstopped.error_iff _).mpr rfl)

theorem performNamed_holds
    {references : List Reference}
    (hComposes : Composes holds references functions)
    {name : String}
    (hName : ∀ function,
      Function.named? name = some function →
        function ∈ functions)
    (arguments : List Argument) :
    holds (Call.performNamed name arguments) := by
  unfold Call.performNamed
  cases hFunction : Function.named? name with
  | none =>
      exact hComposes.settled
        ((Unstopped.error_iff _).mpr rfl)
  | some function =>
      simp only [Call.ofArguments]
      split
      · exact hComposes.ofAnswer function
          (hName function hFunction) _
      · exact hComposes.ofAnswer function
          (hName function hFunction) _

theorem unstopped_numberValue
    (written : String) :
    Unstopped (numberValue written) := by
  unfold numberValue
  split <;> simp

mutual

/-
  What is passed on by the parts of a formula holds of its
  value.
-/
theorem value_holds :
    ∀ (formula : Expr),
      Composes holds formula.references formula.functions →
        holds formula.value
  | .number written, hComposes => by
      rw [value]
      exact hComposes.settled (unstopped_numberValue written)
  | .string _, hComposes => by
      rw [value]
      exact hComposes.pure _
  | .word _, hComposes => by
      rw [value]
      exact hComposes.pure _
  | .boolean _, hComposes => by
      rw [value]
      exact hComposes.pure _
  | .cell written, hComposes => by
      rw [value]
      apply hComposes.ofLabel
      exact hComposes.ofCell (.cell written)
        (by simp [references])
  | .range written, hComposes => by
      rw [value]
      refine hComposes.bind (hComposes.ofArea ?_)
        fun values => ?_
      · intro area hArea cell hCell
        exact hComposes.ofCell (.range written)
          (by simp [references]) cell ⟨area, hArea, hCell⟩
      · exact hComposes.bind
          (hComposes.settled (Value.unstopped_totalOf values))
          fun _ => hComposes.pure _
  | .unary op operand, hComposes => by
      rw [value]
      refine hComposes.bind (value_holds operand ?_)
        fun x => hComposes.settled (op.unstopped_apply x)
      exact hComposes.mono (by simp [references])
        (by simp [functions])
  | .binary op left right, hComposes => by
      rw [value]
      refine hComposes.bind (value_holds left ?_) fun a =>
        hComposes.bind (value_holds right ?_) fun b =>
          hComposes.settled (op.unstopped_deliver a b)
      · exact hComposes.mono (by simp [references])
          (by simp [functions])
      · exact hComposes.mono (by simp [references])
          (by simp [functions])
  | .call name arguments, hComposes => by
      have hNamed :
          ∀ function,
            Function.named? (upperName name) =
                some function →
              function ∈ (call name arguments).functions := by
        intro function hFunction
        simp [functions, hFunction]
      have hArguments :
          Composes holds (referencesOf arguments)
            (functionsOf arguments) :=
        hComposes.mono (by simp [references])
          (by simp [functions])
      have hValues := values_hold arguments hArguments
      rw [value]
      split
      · exact attemptValue_holds hComposes
          (hNamed .ifError ‹_›) hValues
      · refine hComposes.bind
          (argumentValues_holds hArguments hValues)
          fun values => ?_
        exact performNamed_holds hComposes hNamed values

/- It holds of the value of each of several formulas. -/
theorem values_hold :
    ∀ (formulas : List Expr),
      Composes holds (referencesOf formulas)
        (functionsOf formulas) →
      ∀ formula ∈ formulas, holds formula.value
  | [], _ => by simp
  | first :: rest, hComposes => by
      have hFirst :=
        value_holds first
          (hComposes.mono (by simp [referencesOf])
            (by simp [functionsOf]))
      have hRest :=
        values_hold rest
          (hComposes.mono (by simp [referencesOf])
            (by simp [functionsOf]))
      intro formula hFormula
      rcases List.mem_cons.mp hFormula with rfl | hFormula
      · exact hFirst
      · exact hRest formula hFormula

end

/- Bounds by references are put together like the formula. -/
theorem composes_within
    (formula : Expr) :
    Composes
      (fun _ inquiry =>
        inquiry.Within formula.RefersTo formula.IsRandom)
      formula.references formula.functions :=
  { Inquiry.binds_within with
    ofCell := fun _ hReference _ hNames =>
      Inquiry.ofCell_within
        (refersTo_of_names hReference hNames)
    ofAnswer := fun function hFunction _ =>
      Call.ofAnswer_within fun hRandom =>
        ⟨function, hFunction, hRandom⟩
    orElse := fun _ _ _ hTried hFallback =>
      hTried.orElse hFallback }

/- A formula asks only about the cells that it refers to. -/
theorem value_within
    (formula : Expr) :
    formula.value.Within formula.RefersTo
      formula.IsRandom :=
  value_holds formula (composes_within formula)

/- So does each argument of a call. -/
theorem argumentValue_within
    (name : String)
    {arguments : List Expr}
    {argument : Expr}
    (hArgument : argument ∈ arguments) :
    argument.argumentValue.Within
      (call name arguments).RefersTo
      (call name arguments).IsRandom := by
  have hParts :
      argument.references ⊆ referencesOf arguments ∧
        argument.functions ⊆ functionsOf arguments := by
    induction arguments with
    | nil => cases hArgument
    | cons first rest ih =>
        rw [referencesOf, functionsOf]
        rcases List.mem_cons.mp hArgument with rfl | hRest
        · exact ⟨List.subset_append_left _ _,
            List.subset_append_left _ _⟩
        · exact
            ⟨List.subset_append_of_subset_right _ (ih hRest).1,
              List.subset_append_of_subset_right _
                (ih hRest).2⟩
  have hReferences :
      argument.references ⊆
        (call name arguments).references := by
    rw [references]
    exact hParts.1
  have hFunctions :
      argument.functions ⊆
        (call name arguments).functions := by
    rw [functions]
    exact List.subset_append_of_subset_right _ hParts.2
  have hComposes :=
    (composes_within (call name arguments)).mono hReferences
      hFunctions
  exact argumentValue_holds hComposes
    (value_holds argument hComposes)

end Expr

end Spreadsheet
