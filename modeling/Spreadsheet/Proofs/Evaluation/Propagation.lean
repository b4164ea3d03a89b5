import Spreadsheet.Proofs.Evaluation.Formula

/-
  How failures come into a formula and out of it.

  A formula stops only because a cell that it asks about does.
  A failure that cannot be caught, or that nothing in the
  formula catches, is what the formula comes to as soon as one
  answer is this failure.  And a formula that catches nothing
  has no value unless it has asked about every cell that it
  refers to.

  Key definitions include:
    * `Spreadsheet.Inquiry.Passes`
    * `Spreadsheet.Inquiry.Echoes`
    * `Spreadsheet.Inquiry.Demands`

  Main results:
    * `Spreadsheet.Inquiry.result_of_passes`
    * `Spreadsheet.Inquiry.exists_question_of_echoes`
    * `Spreadsheet.Inquiry.exists_question_of_demands`
    * `Spreadsheet.Expr.value_passes`
    * `Spreadsheet.Expr.value_echoes`
    * `Spreadsheet.Expr.value_demands`
-/

------------------------------------------------------------
-- Failures That Are Passed On
------------------------------------------------------------

namespace Spreadsheet

namespace Inquiry

variable {α β : Type}
variable {failure : Failure}

/- An answer that fails in one way is what follows from it. -/
inductive Passes
    (failure : Failure) :
    Inquiry α → Prop where
  | settled
      (result : Except Failure α) :
      Passes failure (.settled result)
  | asking
      {cell : Cell}
      {next : Except Failure Value → Inquiry α}
      (hPasses :
        next (.error failure) = .settled (.error failure))
      (hNext : ∀ answer, Passes failure (next answer)) :
      Passes failure (.asking cell next)
  | drawing
      {next : Float → Inquiry α}
      (hNext : ∀ number, Passes failure (next number)) :
      Passes failure (.drawing next)
  | dating
      {next : Moment → Inquiry α}
      (hNext : ∀ now, Passes failure (next now)) :
      Passes failure (.dating next)
  | fitting
      {length : Nat}
      {next : Bool → Inquiry α}
      (hNext : ∀ fits, Passes failure (next fits)) :
      Passes failure (.fitting length next)

theorem Passes.andThen
    {inquiry : Inquiry α}
    {follow : Except Failure α → Inquiry β}
    (hPasses : inquiry.Passes failure)
    (hFailure :
      follow (.error failure) = .settled (.error failure))
    (hFollow : ∀ result, (follow result).Passes failure) :
    (inquiry.andThen follow).Passes failure := by
  induction hPasses with
  | settled result => exact hFollow result
  | asking hFirst hNext ih =>
      refine .asking ?_ ih
      simp only [hFirst, Inquiry.andThen, hFailure]
  | drawing hNext ih => exact .drawing ih
  | dating hNext ih => exact .dating ih
  | fitting hNext ih => exact .fitting ih

theorem binds_passes
    (failure : Failure) :
    Binds fun _ inquiry => inquiry.Passes failure where
  settled _ := .settled _
  bind hPasses hFollow := by
    refine hPasses.andThen rfl ?_
    intro result
    cases result with
    | ok value => exact hFollow value
    | error other => exact .settled _

/- What cannot be caught is passed on by every inquiry. -/
theorem Within.passes
    {cells : Cell → Prop}
    {random : Prop}
    {inquiry : Inquiry α}
    (hWithin : inquiry.Within cells random)
    (hUncaught : failure.isCaught = false) :
    inquiry.Passes failure := by
  induction hWithin with
  | settled result => exact .settled result
  | asking hCell hPasses hNext ih =>
      exact .asking (hPasses failure hUncaught) ih
  | drawing hDraws hNext ih => exact .drawing ih
  | dating hNext ih => exact .dating ih
  | fitting hNext ih => exact .fitting ih

variable {surroundings : Surroundings}
variable {resolve : Cell → Run Value}
variable {inquiry : Inquiry α}
variable {progress : Progress}

/-
  A failure that is passed on is the result of a run if it is
  one of the answers.
-/
theorem result_of_passes
    (hPasses : inquiry.Passes failure)
    {visit : Visit}
    (hVisit : visit ∈
      inquiry.questions surroundings resolve progress)
    (hFailed :
      ((resolve visit.cell).outcome visit.progress).1 =
        .error failure) :
    ((inquiry.run surroundings resolve).outcome
        progress).1 =
      .error failure := by
  induction hPasses generalizing progress with
  | settled result => simp [questions] at hVisit
  | asking hFirst hNext ih =>
      rw [outcome_run_asking]
      rw [questions, List.mem_cons] at hVisit
      rcases hVisit with rfl | hVisit
      · rw [hFailed, hFirst]
        rfl
      · exact ih _ hVisit
  | drawing hNext ih => exact ih _ hVisit
  | dating hNext ih => exact ih _ hVisit
  | fitting hNext ih => exact ih _ hVisit

end Inquiry

end Spreadsheet

------------------------------------------------------------
-- Failures That Come From Answers
------------------------------------------------------------

namespace Spreadsheet

namespace Inquiry

variable {α β : Type}
variable {failure : Failure}

/- An inquiry fails in one way only if an answer does. -/
inductive Echoes
    (failure : Failure) :
    Inquiry α → Prop where
  | settled
      {result : Except Failure α}
      (hResult : result ≠ .error failure) :
      Echoes failure (.settled result)
  | asking
      {cell : Cell}
      {next : Except Failure Value → Inquiry α}
      (hNext : ∀ answer, answer ≠ .error failure →
        Echoes failure (next answer)) :
      Echoes failure (.asking cell next)
  | drawing
      {next : Float → Inquiry α}
      (hNext : ∀ number, Echoes failure (next number)) :
      Echoes failure (.drawing next)
  | dating
      {next : Moment → Inquiry α}
      (hNext : ∀ now, Echoes failure (next now)) :
      Echoes failure (.dating next)
  | fitting
      {length : Nat}
      {next : Bool → Inquiry α}
      (hNext : ∀ fits, Echoes failure (next fits)) :
      Echoes failure (.fitting length next)

theorem Echoes.andThen
    {inquiry : Inquiry α}
    {follow : Except Failure α → Inquiry β}
    (hEchoes : inquiry.Echoes failure)
    (hFollow : ∀ result, result ≠ .error failure →
      (follow result).Echoes failure) :
    (inquiry.andThen follow).Echoes failure := by
  induction hEchoes with
  | settled hResult => exact hFollow _ hResult
  | asking hNext ih => exact .asking ih
  | drawing hNext ih => exact .drawing ih
  | dating hNext ih => exact .dating ih
  | fitting hNext ih => exact .fitting ih

theorem Echoes.orElse
    {inquiry fallback : Inquiry α}
    (hEchoes : inquiry.Echoes failure)
    (hFallback : fallback.Echoes failure) :
    (inquiry.orElse fallback).Echoes failure := by
  apply hEchoes.andThen
  intro result hResult
  cases result with
  | ok value => exact .settled hResult
  | error other =>
      by_cases hCaught : other.isCaught = true
      · simpa only [rescue, hCaught, if_true] using hFallback
      · simp only [rescue, if_neg hCaught]
        exact .settled hResult

theorem ne_error_of_unstopped
    {result : Except Failure α}
    (hUnstopped : Unstopped result)
    (hStop : failure.isStop = true) :
    result ≠ .error failure := by
  intro hResult
  rw [hUnstopped failure hResult] at hStop
  cases hStop

theorem binds_echoes
    (hStop : failure.isStop = true) :
    Binds fun _ inquiry => inquiry.Echoes failure where
  settled hResult :=
    .settled (ne_error_of_unstopped hResult hStop)
  bind hEchoes hFollow := by
    apply hEchoes.andThen
    intro result hResult
    cases result with
    | ok value => exact hFollow value
    | error other =>
        refine .settled ?_
        intro hSame
        cases hSame
        exact hResult rfl

variable {surroundings : Surroundings}
variable {resolve : Cell → Run Value}
variable {inquiry : Inquiry α}
variable {progress : Progress}

/-
  A run that fails in a way that it only echoes has an answer
  that fails so.
-/
theorem exists_question_of_echoes
    (hEchoes : inquiry.Echoes failure)
    (hFailed :
      ((inquiry.run surroundings resolve).outcome
          progress).1 =
        .error failure) :
    ∃ visit ∈
        inquiry.questions surroundings resolve progress,
      ((resolve visit.cell).outcome visit.progress).1 =
        .error failure := by
  induction hEchoes generalizing progress with
  | settled hResult => exact absurd hFailed hResult
  | @asking cell next hNext ih =>
      by_cases hAnswer :
          ((resolve cell).outcome progress).1 =
            .error failure
      · exact ⟨_, List.mem_cons_self, hAnswer⟩
      · rw [outcome_run_asking] at hFailed
        rcases ih _ hAnswer hFailed with
          ⟨visit, hVisit, hSame⟩
        exact ⟨visit, List.mem_cons_of_mem _ hVisit, hSame⟩
  | drawing hNext ih => exact ih _ hFailed
  | dating hNext ih => exact ih _ hFailed
  | fitting hNext ih => exact ih _ hFailed

end Inquiry

end Spreadsheet

------------------------------------------------------------
-- Questions That Have To Be Asked
------------------------------------------------------------

namespace Spreadsheet

namespace Inquiry

variable {α β : Type}
variable {cell : Cell}

/- An inquiry has no value before a cell is asked about. -/
inductive Demands
    (cell : Cell) :
    Inquiry α → Prop where
  | failed
      (failure : Failure) :
      Demands cell (.settled (.error failure))
  | asked
      (next : Except Failure Value → Inquiry α) :
      Demands cell (.asking cell next)
  | asking
      {other : Cell}
      {next : Except Failure Value → Inquiry α}
      (hNext : ∀ answer, Demands cell (next answer)) :
      Demands cell (.asking other next)
  | drawing
      {next : Float → Inquiry α}
      (hNext : ∀ number, Demands cell (next number)) :
      Demands cell (.drawing next)
  | dating
      {next : Moment → Inquiry α}
      (hNext : ∀ now, Demands cell (next now)) :
      Demands cell (.dating next)
  | fitting
      {length : Nat}
      {next : Bool → Inquiry α}
      (hNext : ∀ fits, Demands cell (next fits)) :
      Demands cell (.fitting length next)

/- What is demanded first is demanded in all. -/
theorem Demands.bind
    {inquiry : Inquiry α}
    (hDemands : inquiry.Demands cell)
    (follow : α → Inquiry β) :
    (inquiry >>= follow).Demands cell := by
  induction hDemands with
  | failed failure => exact .failed failure
  | asked next => exact .asked _
  | asking hNext ih => exact .asking ih
  | drawing hNext ih => exact .drawing ih
  | dating hNext ih => exact .dating ih
  | fitting hNext ih => exact .fitting ih

/- What is demanded after every value is demanded in all. -/
theorem demands_bind_of_follow
    (inquiry : Inquiry α)
    {follow : α → Inquiry β}
    (hFollow : ∀ value, (follow value).Demands cell) :
    (inquiry >>= follow).Demands cell := by
  induction inquiry with
  | settled result =>
      cases result with
      | ok value => exact hFollow value
      | error failure => exact .failed failure
  | asking other next ih => exact .asking ih
  | drawing next ih => exact .drawing ih
  | dating next ih => exact .dating ih
  | fitting length next ih => exact .fitting ih

theorem demands_ofLabel
    {label : String}
    (hLabel : Cell.ofLabel label = .ok cell) :
    (ofLabel label).Demands cell := by
  unfold ofLabel
  rw [hLabel]
  exact .asked _

theorem demands_mapM_ofCell
    {asked : List Cell}
    (hCell : cell ∈ asked) :
    (asked.mapM ofCell).Demands cell := by
  induction asked with
  | nil => simp at hCell
  | cons first rest ih =>
      rw [List.mapM_cons]
      rcases List.mem_cons.mp hCell with rfl | hCell
      · exact Demands.bind (.asked _) _
      · refine demands_bind_of_follow _ fun value => ?_
        exact (ih hCell).bind _

/- An area has no values before each of its cells has one. -/
theorem demands_ofArea
    {text : String}
    {area : Area}
    (hArea : Area.ofText text = .ok area)
    (hCell : cell ∈ area.cells) :
    (ofArea text).Demands cell := by
  unfold ofArea
  rw [hArea]
  exact demands_mapM_ofCell hCell

variable {surroundings : Surroundings}
variable {resolve : Cell → Run Value}
variable {inquiry : Inquiry α}
variable {progress : Progress}

/- A run with a value has asked about what it demands. -/
theorem exists_question_of_demands
    (hDemands : inquiry.Demands cell)
    {value : α}
    (hValue :
      ((inquiry.run surroundings resolve).outcome
          progress).1 =
        .ok value) :
    ∃ visit ∈
        inquiry.questions surroundings resolve progress,
      visit.cell = cell := by
  induction hDemands generalizing progress with
  | failed failure => cases hValue
  | asked next => exact ⟨_, List.mem_cons_self, rfl⟩
  | asking hNext ih =>
      rw [outcome_run_asking] at hValue
      rcases ih _ hValue with ⟨visit, hVisit, hCell⟩
      exact ⟨visit, List.mem_cons_of_mem _ hVisit, hCell⟩
  | drawing hNext ih => exact ih _ hValue
  | dating hNext ih => exact ih _ hValue
  | fitting hNext ih => exact ih _ hValue

end Inquiry

end Spreadsheet

------------------------------------------------------------
-- Formulas
------------------------------------------------------------

namespace Spreadsheet

/- A call asks about no cell, so that none fails it. -/
theorem Call.ofAnswer_passes
    {call : Call}
    (failure : Failure) :
    (Inquiry.ofAnswer call.delivered).Passes failure := by
  cases call.delivered with
  | settled result => exact .settled result
  | drawing result => exact .drawing fun _ => .settled _
  | dating result => exact .dating fun _ => .settled _
  | fitting length result =>
      exact .fitting fun _ => .settled _

/- A call is no stop by itself. -/
theorem Call.ofAnswer_echoes
    {call : Call}
    {failure : Failure}
    (hStop : failure.isStop = true) :
    (Inquiry.ofAnswer call.delivered).Echoes failure := by
  have hUnstopped := call.unstopped_delivered
  cases hDelivered : call.delivered with
  | settled result =>
      rw [hDelivered] at hUnstopped
      exact .settled
        (Inquiry.ne_error_of_unstopped hUnstopped hStop)
  | drawing result =>
      rw [hDelivered] at hUnstopped
      exact .drawing fun random =>
        .settled (Inquiry.ne_error_of_unstopped
          (hUnstopped random) hStop)
  | dating result =>
      rw [hDelivered] at hUnstopped
      exact .dating fun now =>
        .settled (Inquiry.ne_error_of_unstopped
          (hUnstopped now) hStop)
  | fitting length result =>
      rw [hDelivered] at hUnstopped
      exact .fitting fun fits =>
        .settled (Inquiry.ne_error_of_unstopped
          (hUnstopped fits) hStop)

namespace Expr

open Inquiry (Composes)

/-
  Where nothing is caught, every failure of an answer is what
  a formula comes to.
-/
theorem value_passes
    {formula : Expr}
    (hCatches : .ifError ∉ formula.functions)
    (failure : Failure) :
    formula.value.Passes failure := by
  have hComposes :
      Composes
        (fun _ inquiry => inquiry.Passes failure)
        formula.references formula.functions :=
    { Inquiry.binds_passes failure with
      ofCell := fun _ _ _ _ => .asking rfl fun _ => .settled _
      ofAnswer := fun _ _ _ => Call.ofAnswer_passes failure
      orElse := fun hAttempts => absurd hAttempts hCatches }
  exact value_holds formula hComposes

/- A formula stops only if an answer does. -/
theorem value_echoes
    (formula : Expr)
    {failure : Failure}
    (hStop : failure.isStop = true) :
    formula.value.Echoes failure := by
  have hComposes :
      Composes
        (fun _ inquiry => inquiry.Echoes failure)
        formula.references formula.functions :=
    { Inquiry.binds_echoes hStop with
      ofCell := fun _ _ _ _ =>
        .asking fun _ hAnswer => .settled hAnswer
      ofAnswer := fun _ _ _ => Call.ofAnswer_echoes hStop
      orElse := fun _ _ _ hTried hFallback =>
        hTried.orElse hFallback }
  exact value_holds formula hComposes

variable {reference : Reference}
variable {cell : Cell}

theorem argumentValue_demands
    {argument : Expr}
    (hReference : reference ∈ argument.references)
    (hNames : reference.Names cell)
    (hValue : argument.value.Demands cell) :
    argument.argumentValue.Demands cell := by
  cases argument
  case range written =>
      rw [references, List.mem_singleton] at hReference
      subst hReference
      rcases hNames with ⟨area, hArea, hCell⟩
      rw [argumentValue, map_eq_pure_bind]
      exact (Inquiry.demands_ofArea hArea hCell).bind _
  all_goals
    simp only [argumentValue, map_eq_pure_bind]
    exact hValue.bind _

theorem argumentValues_demands
    {arguments : List Expr}
    (hReference : reference ∈ referencesOf arguments)
    (hNames : reference.Names cell)
    (hValues : ∀ argument ∈ arguments,
      reference ∈ argument.references →
        argument.value.Demands cell) :
    (argumentValues arguments).Demands cell := by
  induction arguments with
  | nil => simp [referencesOf] at hReference
  | cons argument rest ih =>
      rw [argumentValues_cons]
      rw [referencesOf, List.mem_append] at hReference
      rcases hReference with hFirst | hRest
      · refine Inquiry.Demands.bind ?_ _
        exact argumentValue_demands hFirst hNames
          (hValues argument (by simp) hFirst)
      · refine Inquiry.demands_bind_of_follow _ ?_
        intro first
        refine Inquiry.Demands.bind (ih hRest ?_) _
        intro other hOther
        exact hValues other (by simp [hOther])

mutual

/-
  Where nothing is caught, a formula has no value before all
  cells are asked about that its references name.
-/
theorem value_demands_of_names :
    ∀ (formula : Expr),
      .ifError ∉ formula.functions →
      reference ∈ formula.references →
      reference.Names cell →
        formula.value.Demands cell
  | .number _, _, hReference, _ => by
      simp [references] at hReference
  | .string _, _, hReference, _ => by
      simp [references] at hReference
  | .word _, _, hReference, _ => by
      simp [references] at hReference
  | .boolean _, _, hReference, _ => by
      simp [references] at hReference
  | .cell written, _, hReference, hNames => by
      rw [references, List.mem_singleton] at hReference
      subst hReference
      rw [value]
      exact Inquiry.demands_ofLabel hNames
  | .range written, _, hReference, hNames => by
      rw [references, List.mem_singleton] at hReference
      subst hReference
      rcases hNames with ⟨area, hArea, hCell⟩
      rw [value]
      exact (Inquiry.demands_ofArea hArea hCell).bind _
  | .unary op operand, hCatches, hReference, hNames => by
      rw [functions] at hCatches
      rw [references] at hReference
      rw [value]
      exact (value_demands_of_names operand hCatches
        hReference hNames).bind _
  | .binary op left right, hCatches, hReference, hNames => by
      rw [functions, List.mem_append, not_or] at hCatches
      rw [references, List.mem_append] at hReference
      rw [value]
      rcases hReference with hLeft | hRight
      · exact (value_demands_of_names left hCatches.1 hLeft
          hNames).bind _
      · refine Inquiry.demands_bind_of_follow _ fun a => ?_
        exact (value_demands_of_names right hCatches.2 hRight
          hNames).bind _
  | .call name arguments, hCatches, hReference, hNames => by
      rw [functions, List.mem_append, not_or] at hCatches
      rw [references] at hReference
      have hName :
          Function.named? (upperName name) ≠
            some .ifError := by
        intro hName
        simp [hName] at hCatches
      have hValues :=
        values_demand_of_names arguments hCatches.2 hNames
      rw [value]
      simp only [if_neg hName]
      exact (argumentValues_demands hReference hNames
        hValues).bind _

theorem values_demand_of_names :
    ∀ (formulas : List Expr),
      .ifError ∉ functionsOf formulas →
      reference.Names cell →
      ∀ formula ∈ formulas,
        reference ∈ formula.references →
          formula.value.Demands cell
  | [], _, _ => by simp
  | first :: rest, hCatches, hNames => by
      rw [functionsOf, List.mem_append, not_or] at hCatches
      have hFirst :
          reference ∈ first.references →
            first.value.Demands cell :=
        fun hReference =>
          value_demands_of_names first hCatches.1 hReference
            hNames
      have hRest :=
        values_demand_of_names rest hCatches.2 hNames
      intro formula hFormula hReference
      rcases List.mem_cons.mp hFormula with rfl | hFormula
      · exact hFirst hReference
      · exact hRest formula hFormula hReference

end

/- A formula refers only to what its references are about. -/
theorem names_of_refersTo
    {formula : Expr}
    (hRefers : formula.RefersTo cell) :
    ∃ reference ∈ formula.references,
      reference.Names cell := by
  rcases hRefers with
    ⟨name, hName, hCell⟩ | ⟨name, hName, hArea⟩
  · rw [cellNames, mem_sortNames_iff,
      List.mem_filterMap] at hName
    rcases hName with ⟨reference, hReference, hSome⟩
    refine ⟨reference, hReference, ?_⟩
    cases reference with
    | cell written =>
        cases hSome
        exact hCell
    | range written => cases hSome
  · rw [rangeNames, mem_sortNames_iff,
      List.mem_filterMap] at hName
    rcases hName with ⟨reference, hReference, hSome⟩
    refine ⟨reference, hReference, ?_⟩
    cases reference with
    | cell written => cases hSome
    | range written =>
        cases hSome
        exact hArea

/-
  Where nothing is caught, a formula has no value before all
  cells are asked about that it refers to.
-/
theorem value_demands
    {formula : Expr}
    (hCatches : .ifError ∉ formula.functions)
    (hRefers : formula.RefersTo cell) :
    formula.value.Demands cell := by
  rcases names_of_refersTo hRefers with
    ⟨reference, hReference, hNames⟩
  exact value_demands_of_names formula hCatches hReference
    hNames

end Expr

end Spreadsheet
