import Spreadsheet.Proofs.Sheet.Gained
import Spreadsheet.Proofs.Sheet.Spelling

/-
  What a cell in progress holds.

  A cell whose evaluation has begun is not evaluated again
  before it ends, and its value is not known before.  So no
  answer on the way depends on what this cell holds: a formula
  in it comes to the same as if it were asked from the cell
  while another formula is there.

  Key definitions include:
    * `Spreadsheet.Progress.Holds`

  Main results:
    * `Spreadsheet.Inquiry.run_congr`
    * `Spreadsheet.Sheet.resolve_of_holds`
    * `Spreadsheet.Sheet.outcome_withFormula`
    * `Spreadsheet.Sheet.result_withFormula`
-/

------------------------------------------------------------
-- Runs With Equal Answers
------------------------------------------------------------

namespace Spreadsheet

/-
  Two runs of one inquiry are the same if the questions that
  the first one asks are answered in the same way.
-/
theorem Inquiry.run_congr
    {α : Type}
    {surroundings : Surroundings}
    {resolve resolve' : Cell → Run Value}
    {inquiry : Inquiry α}
    {progress : Progress}
    (hAnswers :
      ∀ visit ∈
          inquiry.questions surroundings resolve progress,
        (resolve' visit.cell).outcome visit.progress =
          (resolve visit.cell).outcome visit.progress) :
    (inquiry.run surroundings resolve').outcome progress =
      (inquiry.run surroundings resolve).outcome progress := by
  induction inquiry generalizing progress with
  | settled result => rfl
  | asking cell next ih =>
      have hFirst := hAnswers _ List.mem_cons_self
      rw [outcome_run_asking, outcome_run_asking, hFirst]
      exact ih _ fun visit hVisit =>
        hAnswers visit (List.mem_cons_of_mem _ hVisit)
  | drawing next ih => exact ih _ hAnswers
  | dating next ih => exact ih _ hAnswers
  | fitting length next ih => exact ih _ hAnswers

end Spreadsheet

------------------------------------------------------------
-- Cells In Progress
------------------------------------------------------------

namespace Spreadsheet

namespace Progress

variable {before after : Progress}
variable {cell : Cell}

/- The evaluation of a cell has begun and not ended. -/
structure Holds
    (progress : Progress)
    (cell : Cell) : Prop where
  mem_busy : cell ∈ progress.busy
  unknown : progress.known[cell]? = none

/- An evaluation has begun where its cell is entered. -/
theorem Opens.holds
    (hOpens : before.Opens cell) :
    (before.enter cell).Holds cell where
  mem_busy := Std.ExtTreeSet.mem_insert_self
  unknown := hOpens.1

/- It has not ended where another cell is entered. -/
theorem Holds.enter
    (hHolds : before.Holds cell)
    (other : Cell) :
    (before.enter other).Holds cell where
  mem_busy :=
    Std.ExtTreeSet.mem_insert.mpr (.inr hHolds.mem_busy)
  unknown := hHolds.unknown

/- Nor has it where values were gained. -/
theorem Gains.holds
    (hGains : before.Gains after)
    (hHolds : before.Holds cell) :
    after.Holds cell where
  mem_busy := by
    rw [hGains.same_guard.busy_eq]
    exact hHolds.mem_busy
  unknown :=
    hGains.unknown cell hHolds.mem_busy hHolds.unknown

end Progress

namespace Sheet

variable {sheet other : Sheet}
variable {held : Cell}
variable {progress : Progress}

/-
  Two sheets that differ in one cell only are evaluated alike
  while this cell is in progress.
-/
theorem evaluateCell_of_holds
    (hSettings : other.settings = sheet.settings)
    (hSurroundings :
      other.surroundings = sheet.surroundings)
    (hInquiry :
      ∀ cell, cell ≠ held →
        other.inquiry cell = sheet.inquiry cell)
    (cell : Cell)
    (hHolds : progress.Holds held) :
    (other.evaluateCell cell).outcome progress =
      (sheet.evaluateCell cell).outcome progress := by
  induction cell, progress using sheet.evaluateCell_cases with
  | known cell progress value hKnown =>
      rw [other.outcome_known hKnown,
        sheet.outcome_known hKnown]
  | busy cell progress hKnown hBusy =>
      rw [other.outcome_busy hKnown hBusy,
        sheet.outcome_busy hKnown hBusy]
  | full cell progress hOpens hFull =>
      have hFull' :
          other.settings.maxDepth ≤ progress.path.length := by
        rwa [hSettings]
      rw [other.outcome_full hOpens hFull',
        sheet.outcome_full hOpens hFull, hSettings]
  | begun cell progress hOpens hRoom ih =>
      have hRoom' :
          progress.path.length < other.settings.maxDepth := by
        rwa [hSettings]
      have hOther : cell ≠ held := by
        rintro rfl
        exact hOpens.2 hHolds.mem_busy
      have hBegins : sheet.Begins ⟨cell, progress⟩ :=
        ⟨hOpens, hRoom⟩
      have hInside :
          (other.resolve (sheet.inquiry cell)).outcome
              (progress.enter cell) =
            (sheet.resolve (sheet.inquiry cell)).outcome
              (progress.enter cell) := by
        rw [resolve, hSurroundings]
        refine Inquiry.run_congr fun visit hVisit => ?_
        have hGains :=
          Inquiry.questions_keep Progress.gains_isKept
            sheet.evaluateCell_gains hVisit
        rw [← innerVisits_eq hBegins] at hVisit
        exact ih visit.cell visit.progress
          (path_of_mem_innerVisits hVisit)
          (hGains.holds (hHolds.enter cell))
      rw [other.outcome_begun hOpens hRoom',
        sheet.outcome_begun hOpens hRoom, hInquiry cell hOther,
        hInside]
      simp only [closed, hSettings]

/- Then every inquiry is answered alike. -/
theorem resolve_of_holds
    {α : Type}
    (hSettings : other.settings = sheet.settings)
    (hSurroundings :
      other.surroundings = sheet.surroundings)
    (hInquiry :
      ∀ cell, cell ≠ held →
        other.inquiry cell = sheet.inquiry cell)
    (hHolds : progress.Holds held)
    (inquiry : Inquiry α) :
    (other.resolve inquiry).outcome progress =
      (sheet.resolve inquiry).outcome progress := by
  rw [resolve, hSurroundings]
  refine Inquiry.run_congr fun visit hVisit => ?_
  have hGains :=
    Inquiry.questions_keep Progress.gains_isKept
      sheet.evaluateCell_gains hVisit
  exact evaluateCell_of_holds hSettings hSurroundings hInquiry
    visit.cell (hGains.holds hHolds)

end Sheet

end Spreadsheet

------------------------------------------------------------
-- Formulas In A Cell
------------------------------------------------------------

namespace Spreadsheet

namespace Sheet

variable (sheet : Sheet)
variable (row col : Nat)

/- A cell of a fresh sheet may begin. -/
theorem opens_start
    (cell : Cell) :
    Progress.start.Opens cell :=
  ⟨Std.TreeMap.getElem?_emptyc, Std.ExtTreeSet.not_mem_empty⟩

/-
  A formula in a cell that begins comes to what is asked from
  this cell, whatever formula is there.
-/
theorem outcome_withFormula
    (body other : List Char)
    {progress : Progress}
    (hBegins : sheet.Begins ⟨⟨row, col⟩, progress⟩) :
    ((sheet.withFormula row col other).evaluateCell
        ⟨row, col⟩).outcome progress =
      let inside :=
        ((sheet.withFormula row col body).resolve
          (.ofBody other)).outcome (progress.enter ⟨row, col⟩)
      (inside.1,
        sheet.closed ⟨row, col⟩ inside.1 inside.2) := by
  have hInquiry :
      ∀ cell, cell ≠ ⟨row, col⟩ →
        (sheet.withFormula row col other).inquiry cell =
          (sheet.withFormula row col body).inquiry cell := by
    intro cell hCell
    rw [inquiry_withFormula_ne _ _ _ _ hCell,
      inquiry_withFormula_ne _ _ _ _ hCell]
  have hSettings :
      (sheet.withFormula row col other).settings =
        (sheet.withFormula row col body).settings :=
    rfl
  rw [outcome_begun (sheet.withFormula row col other)
    hBegins.1 hBegins.2, inquiry_withFormula_self,
    resolve_of_holds hSettings rfl hInquiry hBegins.1.holds]
  rfl

/- A cell that does not begin does not look at its formula. -/
theorem outcome_withFormula_of_not_begun
    (body other : List Char)
    {progress : Progress}
    (hNone : ¬sheet.Begins ⟨⟨row, col⟩, progress⟩) :
    ((sheet.withFormula row col other).evaluateCell
        ⟨row, col⟩).outcome progress =
      ((sheet.withFormula row col body).evaluateCell
        ⟨row, col⟩).outcome progress := by
  let first := sheet.withFormula row col body
  let second := sheet.withFormula row col other
  rcases progress.known_or_busy_or_opens ⟨row, col⟩ with
    ⟨value, hKnown⟩ | ⟨hKnown, hBusy⟩ | hOpens
  · rw [first.outcome_known hKnown,
      second.outcome_known hKnown]
  · rw [first.outcome_busy hKnown hBusy,
      second.outcome_busy hKnown hBusy]
  · have hFull :
        sheet.settings.maxDepth ≤ progress.path.length :=
      Nat.le_of_not_lt fun hRoom => hNone ⟨hOpens, hRoom⟩
    rw [first.outcome_full hOpens hFull,
      second.outcome_full hOpens hFull]
    rfl

/-
  A formula in a cell of a fresh sheet comes to what is asked
  from this cell, whatever formula is there.
-/
theorem result_withFormula
    (body other : List Char)
    (hRoom : 0 < sheet.settings.maxDepth) :
    (sheet.withFormula row col other).result
        ⟨⟨row, col⟩, .start⟩ =
      (((sheet.withFormula row col body).resolve
        (.ofBody other)).outcome
          (Progress.start.enter ⟨row, col⟩)).1 := by
  have hBegins : sheet.Begins ⟨⟨row, col⟩, .start⟩ :=
    ⟨opens_start _, hRoom⟩
  rw [result,
    sheet.outcome_withFormula row col body other hBegins]

/- Without any room there is none for the first cell. -/
theorem result_withFormula_of_no_room
    (body : List Char)
    (hFull : sheet.settings.maxDepth = 0) :
    (sheet.withFormula row col body).result
        ⟨⟨row, col⟩, .start⟩ =
      .error (.tooDeep sheet.settings.maxDepth) := by
  have hNone :
      (sheet.withFormula row col body).settings.maxDepth ≤
        Progress.start.path.length :=
    hFull.le
  rw [result,
    (sheet.withFormula row col body).outcome_full
      (opens_start ⟨row, col⟩) hNone]
  rfl

end Sheet

end Spreadsheet
