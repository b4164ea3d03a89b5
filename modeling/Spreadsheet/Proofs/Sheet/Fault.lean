import Spreadsheet.Proofs.Evaluation.Application
import Spreadsheet.Proofs.Session.Request
import Spreadsheet.Proofs.Sheet.Stop

/-
  Evaluations that fail with a fault of the machine.

  The failures of an evaluation are formula errors, each with
  a code of its own, and all but circles are caught.  The
  exceptions are faults of the machine.  An evaluation fails
  with one exactly if an application on the way slips, and
  then nothing catches it.

  Key definitions include:
    * `Spreadsheet.Sheet.applications`
    * `Spreadsheet.Sheet.Slips`

  Main results:
    * `Spreadsheet.Sheet.result_eq_fault_iff`
    * `Spreadsheet.Sheet.outcome_ifError`
    * `Spreadsheet.Sheet.failures_are_errors_or_slips`
-/

------------------------------------------------------------
-- Applications At A Visit
------------------------------------------------------------

namespace Spreadsheet

namespace Sheet

/- The applications that the raw text of a cell leads to. -/
def applicationsOf
    (sheet : Sheet)
    (cell : Cell)
    (progress : Progress) :
    List Application :=
  match formulaBody? (sheet.grid.read cell).toList with
  | some body =>
      match Expr.ofBody body with
      | .ok formula =>
          formula.applications sheet.surroundings
            sheet.evaluateCell progress
      | .error _ => []
  | none => [.literal (sheet.grid.read cell)]

/- The applications at a visit, if an evaluation begins. -/
def applications
    (sheet : Sheet)
    (visit : Visit) :
    List Application :=
  if sheet.Begins visit then
    sheet.applicationsOf visit.cell
      (visit.progress.enter visit.cell)
  else
    []

/- An application on the way from a visit slips and fails. -/
def Slips
    (sheet : Sheet)
    (visit : Visit)
    (failure : Failure) : Prop :=
  ∃ other ∈ sheet.visits visit,
    ∃ application ∈ sheet.applications other,
      application.Fails failure ∧ application.Slips failure

variable {sheet : Sheet}
variable {fault : Failure}

/- A cell accounts for its faults by its applications. -/
theorem inquiry_accounts
    (hFault : fault.isFormulaError = false)
    (hMemory : fault ≠ .noMemory)
    (cell : Cell) :
    Inquiry.Accounts sheet.surroundings sheet.evaluateCell
      fault (sheet.inquiry cell)
      (sheet.applicationsOf cell) := by
  intro progress
  unfold inquiry Inquiry.ofRaw applicationsOf
  cases formulaBody? (sheet.grid.read cell).toList with
  | none => exact Inquiry.accounts_application Iff.rfl progress
  | some body =>
      dsimp only
      cases Expr.ofBody body with
      | ok formula =>
          exact Expr.value_accounts hFault hMemory formula
            progress
      | error cause =>
          refine Inquiry.accounts_settled ?_ progress
          rintro ⟨rfl⟩
          cases hFault

end Sheet

end Spreadsheet

------------------------------------------------------------
-- Faults On The Way
------------------------------------------------------------

namespace Spreadsheet

namespace Sheet

variable {sheet : Sheet}
variable {visit : Visit}
variable {fault : Failure}

/- A stop is no fault of the machine. -/
theorem Stops.isFormulaError
    {failure : Failure}
    (hStops : sheet.Stops visit failure) :
    failure.isFormulaError = true := by
  cases hStops <;> rfl

/- Where no evaluation begins, there is no fault. -/
theorem result_ne_fault
    (hFault : fault.isFormulaError = false)
    (hBegins : ¬sheet.Begins visit) :
    sheet.result visit ≠ .error fault := by
  intro hResult
  rcases sheet.known_or_stops_or_begins visit with
    ⟨value, -, hValue⟩ | ⟨failure, hStops, hStop⟩ | hBegun
  · rw [hValue] at hResult
    cases hResult
  · rw [hStop] at hResult
    cases hResult
    rw [hStops.isFormulaError] at hFault
    cases hFault
  · exact hBegins hBegun

/-
  A visit comes to a fault exactly if one of its own
  applications fails with it or an inner visit comes to it.
-/
theorem result_eq_fault_iff_step
    (hFault : fault.isFormulaError = false)
    (hMemory : fault ≠ .noMemory)
    (visit : Visit) :
    sheet.result visit = .error fault ↔
      (∃ inner ∈ sheet.innerVisits visit,
        sheet.result inner = .error fault) ∨
      ∃ application ∈ sheet.applications visit,
        application.Fails fault := by
  by_cases hBegins : sheet.Begins visit
  · rw [result_of_begins hBegins, innerVisits_eq hBegins,
      applications, if_pos hBegins]
    exact inquiry_accounts hFault hMemory visit.cell _
  · have hResult := result_ne_fault hFault hBegins
    simp [hResult, innerVisits_eq_nil hBegins, applications,
      hBegins]

/-
  A visit comes to a fault exactly if an application on the
  way fails with it.
-/
theorem result_eq_fault_iff
    (hFault : fault.isFormulaError = false)
    (hMemory : fault ≠ .noMemory)
    (visit : Visit) :
    sheet.result visit = .error fault ↔
      ∃ other ∈ sheet.visits visit,
        ∃ application ∈ sheet.applications other,
          application.Fails fault := by
  induction visit using sheet.visit_induction with
  | hVisit visit ih =>
      rw [result_eq_fault_iff_step hFault hMemory]
      simp only [mem_visits_iff visit]
      constructor
      · rintro (⟨inner, hInner, hResult⟩ | hFails)
        · rcases (ih inner hInner).mp hResult with
            ⟨other, hOther, hFails⟩
          exact ⟨other, Or.inr ⟨inner, hInner, hOther⟩,
            hFails⟩
        · exact ⟨visit, Or.inl rfl, hFails⟩
      · rintro ⟨other, rfl | ⟨inner, hInner, hOther⟩, hFails⟩
        · exact Or.inr hFails
        · exact Or.inl ⟨inner, hInner,
            (ih inner hInner).mpr ⟨other, hOther, hFails⟩⟩

/-
  A fault on the way is a slip unless the memory has run out,
  and slips are faults.
-/
theorem slips_iff
    (sheet : Sheet)
    (visit : Visit)
    (failure : Failure) :
    sheet.Slips visit failure ↔
      sheet.result visit = .error failure ∧
        failure.isFormulaError = false ∧
        failure ≠ .noMemory := by
  constructor
  · rintro ⟨other, hOther, application, hMember, hFails,
      hSlips⟩
    refine ⟨?_, hSlips.isFormulaError, hSlips.ne_noMemory⟩
    exact (result_eq_fault_iff hSlips.isFormulaError
      hSlips.ne_noMemory visit).mpr
        ⟨other, hOther, application, hMember, hFails⟩
  · rintro ⟨hResult, hFault, hMemory⟩
    rcases (result_eq_fault_iff hFault hMemory visit).mp
        hResult with
      ⟨other, hOther, application, hMember, hFails⟩
    exact ⟨other, hOther, application, hMember, hFails,
      Application.slips_of_fails hFault hFails⟩

end Sheet

end Spreadsheet

------------------------------------------------------------
-- What Becomes Of Failures
------------------------------------------------------------

namespace Spreadsheet

namespace Sheet

/-
  A failure is caught if it is a formula error and no circle:
  the fallback is evaluated where the attempt has failed.
-/
theorem outcome_ifError
    (sheet : Sheet)
    {name : String}
    (hName :
      Function.named? (Expr.upperName name) = some .ifError)
    {tried fallback : Expr}
    {before after : Progress}
    {failure : Failure}
    (hTried : (sheet.resolve tried.value).outcome before =
      (.error failure, after)) :
    (sheet.resolve
        (Expr.call name [tried, fallback]).value).outcome
          before =
      if failure.isCaught then
        (sheet.resolve fallback.value).outcome after
      else
        (.error failure, after) := by
  unfold resolve at hTried
  rw [Expr.value_ifError hName, Inquiry.orElse, resolve,
    Inquiry.outcome_andThen, hTried]
  simp only [Inquiry.rescue]
  split <;> rfl

/- A formula that fails shows the code of its failure. -/
theorem displayed_of_failed
    (sheet : Sheet)
    {cell : Cell}
    (hFormula : isFormula (sheet.grid.read cell) = true)
    {session : Session}
    {failure : Failure}
    (hFailed : sheet.result ⟨cell, session.progress⟩ =
      .error failure) :
    ((sheet.displayCell cell).run session).1 =
      failure.display := by
  rw [sheet.run_displayCell_of_formula hFormula]
  unfold result at hFailed
  dsimp only at hFailed ⊢
  rw [hFailed]
  rfl

/-
  An evaluation fails with a fault of the machine exactly if
  an application on the way slips.  If none does, a failure is
  a formula error: the cell shows its code, and in its place
  an attempt gives the fallback unless it closes a circle.
  All of this leaves aside that the memory runs out, as it may
  at any step.
-/
theorem failures_are_errors_or_slips
    (sheet : Sheet)
    (visit : Visit)
    (failure : Failure) :
    (sheet.Slips visit failure ↔
      sheet.result visit = .error failure ∧
        failure.isFormulaError = false ∧
        failure ≠ .noMemory) ∧
    ((∀ fault, ¬sheet.Slips visit fault) →
      sheet.result visit = .error failure →
      failure ≠ .noMemory →
        failure.isFormulaError = true ∧
        (isFormula (sheet.grid.read visit.cell) = true →
          ∀ session : Session,
            session.progress = visit.progress →
              ((sheet.displayCell visit.cell).run
                session).1 = failure.display) ∧
        (failure.isCircular = false →
          ∀ name tried fallback before after,
            Function.named? (Expr.upperName name) =
              some .ifError →
            (sheet.resolve tried.value).outcome before =
              (.error failure, after) →
              (sheet.resolve (Expr.call name
                  [tried, fallback]).value).outcome before =
                (sheet.resolve fallback.value).outcome
                  after)) := by
  refine ⟨sheet.slips_iff visit failure, ?_⟩
  intro hNone hFailed hMemory
  have hError : failure.isFormulaError = true := by
    rw [← Bool.not_eq_false]
    intro hFault
    exact hNone failure
      ((sheet.slips_iff visit failure).mpr
        ⟨hFailed, hFault, hMemory⟩)
  refine ⟨hError, ?_, ?_⟩
  · intro hFormula session hProgress
    apply sheet.displayed_of_failed hFormula
    rw [hProgress]
    exact hFailed
  · intro hCircular name tried fallback before after hName
      hTried
    have hCaught : failure.isCaught = true := by
      rw [Failure.isCaught, hError, hCircular]
      rfl
    rw [sheet.outcome_ifError hName hTried, if_pos hCaught]

/- Whether a result fails in some way can be decided. -/
instance
    {α : Type}
    (result : Except Failure α)
    (holds : Failure → Prop)
    [DecidablePred holds] :
    Decidable
      (∃ failure, result = .error failure ∧ holds failure) :=
  match result with
  | .ok _ => isFalse (by simp)
  | .error failure => decidable_of_iff (holds failure) (by simp)

/- A sheet whose only formula calls a function by no name. -/
def misspelt : Sheet where
  grid := [[some "=NO()"]]
  settings := ⟨5, 10, false, false, 1⟩
  surroundings := .still

/- The cell shows the name, and an attempt at it falls back. -/
theorem failure_in_misspelt :
    let visit : Visit := ⟨⟨0, 0⟩, .start⟩
    ∃ failure,
      (∀ fault, ¬misspelt.Slips visit fault) ∧
      misspelt.result visit = .error failure ∧
      failure ≠ .noMemory ∧
      ((misspelt.displayCell ⟨0, 0⟩).run .start).1 =
        "#NAME? (NO)" ∧
      ((misspelt.resolve (Expr.call "IFERROR"
          [.cell "A1", .string "\"x\""]).value).outcome
            .start).1 =
        .ok (.text "x") := by
  intro visit
  have hResult :
      ∃ failure, misspelt.result visit = .error failure ∧
        failure.isFormulaError = true ∧
        failure.isCircular = false ∧
        failure.display = "#NAME? (NO)" := by
    decide +kernel
  rcases hResult with
    ⟨failure, hFailed, hError, hCircular, hDisplay⟩
  have hNone : ∀ fault, ¬misspelt.Slips visit fault := by
    intro fault hSlips
    rcases (failures_are_errors_or_slips misspelt visit
      fault).1.mp hSlips with ⟨hSame, hFault, -⟩
    rw [hFailed] at hSame
    cases hSame
    rw [hError] at hFault
    cases hFault
  have hTried :
      ((misspelt.resolve (Expr.cell "A1").value).outcome
        .start).1 = .error failure := by
    have hValue :
        (Expr.cell "A1").value = .ofCell ⟨0, 0⟩ := by
      rfl
    rw [hValue, resolve, Inquiry.ofCell,
      Inquiry.outcome_run_asking,
      Inquiry.outcome_run_settled]
    exact hFailed
  have hMemory : failure ≠ .noMemory := by
    rintro rfl
    cases hError
  rcases (failures_are_errors_or_slips misspelt visit
    failure).2 hNone hFailed hMemory with
      ⟨-, hShown, hCaught⟩
  refine ⟨failure, hNone, hFailed, hMemory, ?_, ?_⟩
  · rw [hShown (by decide +kernel) .start rfl, hDisplay]
  · rw [hCaught hCircular "IFERROR" (.cell "A1") _ .start
      ((misspelt.resolve (Expr.cell "A1").value).outcome
        .start).2 rfl (Prod.ext hTried rfl)]
    rfl

/-
  A sheet whose only formula repeats a text too often and
  falls back on another one.
-/
def repeating : Sheet where
  grid :=
    [[some
      "=IFERROR(REPT(\"a\",\"9223372036854775808\"),\"x\")"]]
  settings := ⟨5, 10, false, false, 1⟩
  surroundings := .still

/-
  The number of repetitions is a fault of the machine, not a
  formula error: there is no value, not that of the fallback
  either, and the code that is shown is the generic one.
-/
theorem fault_in_repeating :
    ∃ failure,
      repeating.result ⟨⟨0, 0⟩, .start⟩ = .error failure ∧
        failure.isFormulaError = false ∧
        failure.machineName? = some "OverflowError" ∧
        failure.display = Failure.genericCode := by
  decide +kernel

end Sheet

end Spreadsheet
