import Spreadsheet.Proofs.Evaluation.Propagation
import Spreadsheet.Proofs.Sheet.Guard

/-
  Where evaluations stop.

  A stop on the way to a cell begins where the guard itself
  finds a busy cell or a path without room; no formula makes
  one up.  On its way back a failure that nothing catches is
  the result of each evaluation that is in progress.  So a
  value tells what has happened on the way to it: nothing
  uncaught, and below formulas that catch nothing, no failure
  at all.

  Key definitions include:
    * `Spreadsheet.Sheet.result`
    * `Spreadsheet.Sheet.Stops`

  Main results:
    * `Spreadsheet.Sheet.exists_stop`
    * `Spreadsheet.Sheet.result_of_uncaught`
    * `Spreadsheet.Sheet.exists_inner_of_refers`
-/

------------------------------------------------------------
-- Results Of Visits
------------------------------------------------------------

namespace Spreadsheet

namespace Sheet

/- What a visit comes to. -/
def result
    (sheet : Sheet)
    (visit : Visit) :
    Except Failure Value :=
  ((sheet.evaluateCell visit.cell).outcome visit.progress).1

/- Whether a result is a value can be decided. -/
instance
    (result : Except Failure Value)
    (value : Value) :
    Decidable (result = .ok value) :=
  match result with
  | .ok other => decidable_of_iff (other = value) (by simp)
  | .error _ => isFalse (by simp)

/-
  The failures by which the guard stops at a visit: the cell
  is busy, or there is no room for it.
-/
inductive Stops
    (sheet : Sheet)
    (visit : Visit) :
    Failure → Prop where
  | circle
      (hBusy : visit.cell ∈ visit.progress.busy) :
      Stops sheet visit
        (.circular (visit.progress.circle visit.cell))
  | full
      (hFull : sheet.settings.maxDepth ≤
        visit.progress.path.length) :
      Stops sheet visit (.tooDeep sheet.settings.maxDepth)

variable {sheet : Sheet}
variable {visit : Visit}

theorem Stops.isStop
    {failure : Failure}
    (hStops : sheet.Stops visit failure) :
    failure.isStop = true := by
  cases hStops <;> rfl

/-
  A visit finds a value that is known, is stopped, or begins
  an evaluation.
-/
theorem known_or_stops_or_begins
    (sheet : Sheet)
    (visit : Visit) :
    (∃ value, visit.progress.known[visit.cell]? = some value ∧
      sheet.result visit = .ok value) ∨
    (∃ failure, sheet.Stops visit failure ∧
      sheet.result visit = .error failure) ∨
    sheet.Begins visit := by
  unfold result
  rcases visit.progress.known_or_busy_or_opens visit.cell with
    ⟨value, hKnown⟩ | ⟨hKnown, hBusy⟩ | hOpens
  · refine Or.inl ⟨value, hKnown, ?_⟩
    rw [sheet.outcome_known hKnown]
  · refine Or.inr (Or.inl ⟨_, .circle hBusy, ?_⟩)
    rw [sheet.outcome_busy hKnown hBusy]
  · by_cases hFull :
        sheet.settings.maxDepth ≤ visit.progress.path.length
    · refine Or.inr (Or.inl ⟨_, .full hFull, ?_⟩)
      rw [sheet.outcome_full hOpens hFull]
    · exact Or.inr (Or.inr ⟨hOpens, Nat.lt_of_not_le hFull⟩)

/- Where an evaluation begins, its inquiry has the result. -/
theorem result_of_begins
    (hBegins : sheet.Begins visit) :
    sheet.result visit =
      ((sheet.resolve (sheet.inquiry visit.cell)).outcome
        (visit.progress.enter visit.cell)).1 := by
  unfold result
  rw [sheet.outcome_begun hBegins.1 hBegins.2]

/- A visit without a stop and without known values begins. -/
theorem begins_of_unstopped
    (hUnknown : visit.progress.known = ∅)
    (hUnstopped : Unstopped (sheet.result visit)) :
    sheet.Begins visit := by
  rcases sheet.known_or_stops_or_begins visit with
    ⟨value, hKnown, -⟩ | ⟨failure, hStops, hResult⟩ | hBegins
  · simp [hUnknown] at hKnown
  · have hStop := hUnstopped failure hResult
    rw [hStops.isStop] at hStop
    cases hStop
  · exact hBegins

end Sheet

end Spreadsheet

------------------------------------------------------------
-- Where Stops Come From
------------------------------------------------------------

namespace Spreadsheet

namespace Sheet

variable {sheet : Sheet}
variable {visit : Visit}
variable {failure : Failure}

/- A cell stops only if a cell that it asks about does. -/
theorem inquiry_echoes
    (sheet : Sheet)
    (cell : Cell)
    (hStop : failure.isStop = true) :
    (sheet.inquiry cell).Echoes failure := by
  rcases sheet.inquiry_cases cell with
    ⟨formula, -, hInquiry⟩ |
    ⟨result, hUnstopped, -, hInquiry⟩
  · rw [hInquiry]
    exact formula.value_echoes hStop
  · rw [hInquiry]
    exact .settled
      (Inquiry.ne_error_of_unstopped hUnstopped hStop)

/- A stop of an evaluation is one of its answers. -/
theorem exists_inner_of_stop
    (hStop : failure.isStop = true)
    (hBegins : sheet.Begins visit)
    (hResult : sheet.result visit = .error failure) :
    ∃ inner ∈ sheet.innerVisits visit,
      sheet.result inner = .error failure := by
  rw [result_of_begins hBegins] at hResult
  rw [innerVisits_eq hBegins]
  exact Inquiry.exists_question_of_echoes
    (sheet.inquiry_echoes visit.cell hStop) hResult

/-
  Every stop begins at a visit on the way, at which the guard
  itself stops.
-/
theorem exists_stop
    (hStop : failure.isStop = true)
    (hResult : sheet.result visit = .error failure) :
    ∃ source ∈ sheet.visits visit,
      sheet.Stops source failure := by
  rcases visit with ⟨cell, progress⟩
  induction cell, progress using sheet.evaluateCell_cases with
  | known cell progress value hKnown =>
      unfold result at hResult
      rw [sheet.outcome_known hKnown] at hResult
      cases hResult
  | busy cell progress hKnown hBusy =>
      unfold result at hResult
      rw [sheet.outcome_busy hKnown hBusy] at hResult
      cases hResult
      exact ⟨_, mem_visits_self _, .circle hBusy⟩
  | full cell progress hOpens hFull =>
      unfold result at hResult
      rw [sheet.outcome_full hOpens hFull] at hResult
      cases hResult
      exact ⟨_, mem_visits_self _, .full hFull⟩
  | begun cell progress hOpens hRoom ih =>
      rcases exists_inner_of_stop hStop ⟨hOpens, hRoom⟩
        hResult with ⟨inner, hInner, hSame⟩
      rcases ih inner.cell inner.progress
          (path_of_mem_innerVisits hInner) hSame with
        ⟨source, hSource, hStops⟩
      exact ⟨source,
        (mem_visits_iff _ source).mpr
          (Or.inr ⟨inner, hInner, hSource⟩),
        hStops⟩

/- Where the guard stops nowhere on the way, nothing does. -/
theorem unstopped_of_no_stop
    (hNoStop : ∀ source ∈ sheet.visits visit,
      ∀ failure, ¬sheet.Stops source failure)
    {other : Visit}
    (hOther : other ∈ sheet.visits visit) :
    Unstopped (sheet.result other) := by
  intro failure hResult
  rw [← Bool.not_eq_true]
  intro hStop
  rcases exists_stop hStop hResult with
    ⟨source, hSource, hStops⟩
  exact hNoStop source (visits_subset hOther hSource) failure
    hStops

end Sheet

end Spreadsheet

------------------------------------------------------------
-- What Failures Lead To
------------------------------------------------------------

namespace Spreadsheet

namespace Sheet

variable {sheet : Sheet}
variable {visit inner other : Visit}
variable {failure : Failure}

/- Where nothing is caught, every failure is passed on. -/
theorem inquiry_passes
    {cell : Cell}
    (hCatches : ¬sheet.grid.CallsAt .ifError cell)
    (failure : Failure) :
    (sheet.inquiry cell).Passes failure := by
  rcases sheet.inquiry_cases cell with
    ⟨formula, hFormula, hInquiry⟩ | ⟨result, -, -, hInquiry⟩
  · rw [hInquiry]
    exact Expr.value_passes
      (fun hCalls => hCatches ⟨formula, hFormula, hCalls⟩)
      failure
  · rw [hInquiry]
    exact .settled result

/- A failure that is passed on is what a visit comes to. -/
theorem result_of_inner
    (hPasses : (sheet.inquiry visit.cell).Passes failure)
    (hInner : inner ∈ sheet.innerVisits visit)
    (hFailed : sheet.result inner = .error failure) :
    sheet.result visit = .error failure := by
  have hBegins := (sameGuard_of_mem_innerVisits hInner).1
  rw [innerVisits_eq hBegins] at hInner
  rw [result_of_begins hBegins]
  exact Inquiry.result_of_passes hPasses hInner hFailed

/- What cannot be caught comes back from all visits. -/
theorem result_of_uncaught
    (hUncaught : failure.isCaught = false)
    (hOther : other ∈ sheet.visits visit)
    (hFailed : sheet.result other = .error failure) :
    sheet.result visit = .error failure := by
  refine visits_induction
    (motive := fun other =>
      sheet.result other = .error failure →
        sheet.result visit = .error failure)
    ?_ id hOther hFailed
  intro middle inner hMiddle hInner hResult
  exact hMiddle
    (result_of_inner
      ((sheet.inquiry_within middle.cell).passes hUncaught)
      hInner hResult)

/- A circle on the way comes back from all visits. -/
theorem result_ne_circular
    {value : Value}
    (hValue : sheet.result visit = .ok value)
    (hOther : other ∈ sheet.visits visit)
    (path : List Cell) :
    sheet.result other ≠ .error (.circular path) := by
  intro hResult
  rw [result_of_uncaught rfl hOther hResult] at hValue
  cases hValue

/-
  Where nothing is caught, a value comes from values of the
  cells that are asked about.
-/
theorem exists_value_of_inner
    (hCatches : ¬sheet.grid.CallsAt .ifError visit.cell)
    {value : Value}
    (hValue : sheet.result visit = .ok value)
    (hInner : inner ∈ sheet.innerVisits visit) :
    ∃ answer, sheet.result inner = .ok answer := by
  cases hResult : sheet.result inner with
  | ok answer => exact ⟨answer, rfl⟩
  | error failure =>
      have hPasses := inquiry_passes hCatches failure
      rw [result_of_inner hPasses hInner hResult] at hValue
      cases hValue

/-
  Where nothing is caught, a value comes after all cells were
  asked about that the formula refers to.
-/
theorem exists_inner_of_refers
    (hBegins : sheet.Begins visit)
    (hCatches : ¬sheet.grid.CallsAt .ifError visit.cell)
    {value : Value}
    (hValue : sheet.result visit = .ok value)
    {cell : Cell}
    (hRefers : sheet.grid.Refers visit.cell cell) :
    ∃ inner ∈ sheet.innerVisits visit, inner.cell = cell := by
  rcases hRefers with ⟨formula, hFormula, hRefersTo⟩
  have hInquiry :
      sheet.inquiry visit.cell = formula.value := by
    rcases sheet.inquiry_cases visit.cell with
      ⟨other, hOther, hInquiry⟩ | ⟨_, -, hNone, -⟩
    · rw [hFormula] at hOther
      cases hOther
      exact hInquiry
    · rw [hFormula] at hNone
      cases hNone
  have hDemands :
      (sheet.inquiry visit.cell).Demands cell := by
    rw [hInquiry]
    exact Expr.value_demands
      (fun hCalls => hCatches ⟨formula, hFormula, hCalls⟩)
      hRefersTo
  rw [result_of_begins hBegins] at hValue
  rw [innerVisits_eq hBegins]
  exact Inquiry.exists_question_of_demands hDemands hValue

end Sheet

end Spreadsheet
