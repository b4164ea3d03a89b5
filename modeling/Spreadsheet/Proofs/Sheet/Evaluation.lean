import Spreadsheet.Proofs.Evaluation.Formula
import Spreadsheet.Proofs.Grid.Cells
import Spreadsheet.Sheet

/-
  What the evaluation of a cell does.

  Four things can happen to a cell: its value is known, it is
  busy, there is no room for it, or its evaluation begins and
  ends.  All that is proved of evaluations comes from the
  equations for these four.  In them no number of cells is
  left that may still begin, since the path itself says how
  much room there is and every evaluation restores it.

  Key definitions include:
    * `Spreadsheet.Grid.formula?`
    * `Spreadsheet.Grid.Refers`
    * `Spreadsheet.Grid.CallsAt`
    * `Spreadsheet.Progress.Opens`
    * `Spreadsheet.Sheet.closed`
    * `Spreadsheet.SameGuard`
    * `Spreadsheet.SameKnown`

  Main results:
    * `Spreadsheet.Sheet.inquiry_cases`
    * `Spreadsheet.Sheet.inquiry_within`
    * `Spreadsheet.Sheet.evaluateCell_keeps_guard`
    * `Spreadsheet.Sheet.outcome_begun`
    * `Spreadsheet.Sheet.evaluateCell_cases`
    * `Spreadsheet.Sheet.evaluateCell_keeps`
-/

------------------------------------------------------------
-- Formulas In A Grid
------------------------------------------------------------

namespace Spreadsheet

namespace Grid

/- The formula of a cell whose raw text can be read as one. -/
def formula?
    (grid : Grid)
    (cell : Cell) :
    Option Expr :=
  match formulaBody? (grid.read cell).toList with
  | some body => (Expr.ofBody body).toOption
  | none => none

/- A cell with a formula that can be read has a formula. -/
theorem mem_formulaCells_of_formula
    {grid : Grid}
    {cell : Cell}
    {formula : Expr}
    (hFormula : grid.formula? cell = some formula) :
    cell ∈ grid.formulaCells := by
  rw [mem_formulaCells_iff]
  unfold formula? at hFormula
  cases hBody : formulaBody? (grid.read cell).toList with
  | none =>
      rw [hBody] at hFormula
      cases hFormula
  | some body =>
      rw [isFormula, hBody]
      rfl

/- A cell with a formula lies in no negative column. -/
theorem col_nonneg_of_formula
    {grid : Grid}
    {cell : Cell}
    {formula : Expr}
    (hFormula : grid.formula? cell = some formula) :
    0 ≤ cell.col := by
  apply Int.not_lt.mp
  intro hNegative
  have hRead : grid.read cell = "" :=
    read_outside (Or.inr (Or.inl hNegative))
  rw [formula?, hRead] at hFormula
  cases hFormula

/- The formula of a cell refers to another cell. -/
def Refers
    (grid : Grid)
    (cell other : Cell) : Prop :=
  ∃ formula, grid.formula? cell = some formula ∧
    formula.RefersTo other

/- The formula of a cell calls a function. -/
def CallsAt
    (grid : Grid)
    (function : Function)
    (cell : Cell) : Prop :=
  ∃ formula, grid.formula? cell = some formula ∧
    function ∈ formula.functions

/- The formula of a cell calls a random function. -/
def IsRandomAt
    (grid : Grid)
    (cell : Cell) : Prop :=
  ∃ formula, grid.formula? cell = some formula ∧
    formula.IsRandom

instance
    (grid : Grid)
    (function : Function)
    (cell : Cell) :
    Decidable (grid.CallsAt function cell) :=
  match hFormula : grid.formula? cell with
  | some formula =>
      decidable_of_iff (function ∈ formula.functions)
        (by simp [CallsAt, hFormula])
  | none => isFalse (by simp [CallsAt, hFormula])

/- A function is called nowhere if no formula calls it. -/
theorem not_callsAt
    {grid : Grid}
    {function : Function}
    (hCells : ∀ cell ∈ grid.formulaCells,
      ¬grid.CallsAt function cell)
    (cell : Cell) :
    ¬grid.CallsAt function cell := by
  intro hCalls
  rcases hCalls with ⟨formula, hFormula, hFunction⟩
  exact hCells cell (mem_formulaCells_of_formula hFormula)
    ⟨formula, hFormula, hFunction⟩

/- Nothing is random where the random functions are not. -/
theorem not_isRandomAt
    {grid : Grid}
    (hCells : ∀ cell ∈ grid.formulaCells,
      ¬grid.CallsAt .rand cell ∧
        ¬grid.CallsAt .randBetween cell)
    (cell : Cell) :
    ¬grid.IsRandomAt cell := by
  rintro ⟨formula, hFormula, function, hFunction, hRandom⟩
  rcases hCells cell
      (mem_formulaCells_of_formula hFormula) with
    ⟨hRand, hRandBetween⟩
  cases function with
  | rand => exact hRand ⟨formula, hFormula, hFunction⟩
  | randBetween =>
      exact hRandBetween ⟨formula, hFormula, hFunction⟩
  | _ => cases hRandom

end Grid

namespace Sheet

variable (sheet : Sheet)
variable (cell : Cell)

/-
  A cell has a formula that can be read, or it comes to a
  result without a question and without a stop.
-/
theorem inquiry_cases :
    (∃ formula, sheet.grid.formula? cell = some formula ∧
      sheet.inquiry cell = formula.value) ∨
    ∃ result : Except Failure Value, Unstopped result ∧
      sheet.grid.formula? cell = none ∧
        sheet.inquiry cell = .settled result := by
  unfold inquiry Inquiry.ofRaw Grid.formula?
  cases formulaBody? (sheet.grid.read cell).toList with
  | none =>
      exact Or.inr ⟨_, Value.unstopped_ofLiteral _, rfl, rfl⟩
  | some body =>
      cases hFormula : Expr.ofBody body with
      | error fault =>
          refine Or.inr ⟨.error (.unreadable fault),
            by simp, ?_, by simp only [hFormula]⟩
          simp only [hFormula]
          rfl
      | ok formula =>
          refine Or.inl ⟨formula, ?_, by simp only [hFormula]⟩
          simp only [hFormula]
          rfl

/-
  A cell asks only about the cells that its formula refers
  to.
-/
theorem inquiry_within :
    (sheet.inquiry cell).Within (sheet.grid.Refers cell)
      (sheet.grid.IsRandomAt cell) := by
  rcases sheet.inquiry_cases cell with
    ⟨formula, hFormula, hInquiry⟩ | ⟨result, -, -, hInquiry⟩
  · rw [hInquiry]
    exact formula.value_within.mono
      (fun other hOther => ⟨formula, hFormula, hOther⟩)
      (fun hRandom => ⟨formula, hFormula, hRandom⟩)
  · rw [hInquiry]
    exact .settled result

end Sheet

end Spreadsheet

------------------------------------------------------------
-- Where Evaluations Begin
------------------------------------------------------------

namespace Spreadsheet

namespace Progress

/-
  The evaluation of a cell may begin if its value is not known
  and it is not busy.
-/
def Opens
    (progress : Progress)
    (cell : Cell) : Prop :=
  progress.known[cell]? = none ∧ cell ∉ progress.busy

instance
    (progress : Progress)
    (cell : Cell) :
    Decidable (progress.Opens cell) := by
  unfold Opens
  infer_instance

/- A cell that may not begin is known or busy. -/
theorem known_or_busy_or_opens
    (progress : Progress)
    (cell : Cell) :
    (∃ value, progress.known[cell]? = some value) ∨
      (progress.known[cell]? = none ∧
        cell ∈ progress.busy) ∨
      progress.Opens cell := by
  cases hKnown : progress.known[cell]? with
  | some value => exact Or.inl ⟨value, rfl⟩
  | none =>
      by_cases hBusy : cell ∈ progress.busy
      · exact Or.inr (Or.inl ⟨rfl, hBusy⟩)
      · exact Or.inr (Or.inr ⟨hKnown, hBusy⟩)

end Progress

namespace Run

variable {α : Type}

@[simp] theorem outcome_inside
    (cell : Cell)
    (run : Run α)
    (progress : Progress) :
    (inside cell run).outcome progress =
      ((run.outcome (progress.enter cell)).1,
        ((run.outcome (progress.enter cell)).2).leave
          cell) := by
  simp [inside, outcome_bind]

theorem outcome_knownOr
    (cell : Cell)
    (compute : Run Value)
    (progress : Progress) :
    (knownOr cell compute).outcome progress =
      match progress.known[cell]? with
      | some value => (.ok value, progress)
      | none =>
          if cell ∈ progress.busy then
            (.error (.circular (progress.circle cell)),
              progress)
          else
            compute.outcome progress := by
  simp only [knownOr, outcome_bind, outcome_get]
  cases progress.known[cell]? with
  | some value => rfl
  | none =>
      by_cases hBusy : cell ∈ progress.busy
      · simp [hBusy]
      · simp [hBusy]

end Run

namespace Sheet

/- What is left behind where an evaluation ends. -/
def closed
    (sheet : Sheet)
    (cell : Cell)
    (result : Except Failure Value)
    (progress : Progress) :
    Progress :=
  match result with
  | .ok value =>
      if sheet.settings.memoize then
        (progress.leave cell).keep cell value
      else
        progress.leave cell
  | .error _ => progress.leave cell

variable (sheet : Sheet)
variable (room : Nat)
variable {cell : Cell}
variable {progress : Progress}

theorem outcome_evaluateWithin_of_known
    {value : Value}
    (hKnown : progress.known[cell]? = some value) :
    (sheet.evaluateWithin room cell).outcome progress =
      (.ok value, progress) := by
  cases room <;>
    simp only [evaluateWithin, Run.outcome_knownOr, hKnown]

theorem outcome_evaluateWithin_of_busy
    (hKnown : progress.known[cell]? = none)
    (hBusy : cell ∈ progress.busy) :
    (sheet.evaluateWithin room cell).outcome progress =
      (.error (.circular (progress.circle cell)),
        progress) := by
  cases room <;>
    simp only [evaluateWithin, Run.outcome_knownOr, hKnown,
      if_pos hBusy]

theorem outcome_evaluateWithin_zero
    (hOpens : progress.Opens cell) :
    (sheet.evaluateWithin 0 cell).outcome progress =
      (.error (.tooDeep sheet.settings.maxDepth),
        progress) := by
  simp [evaluateWithin, Run.outcome_knownOr, hOpens.1,
    hOpens.2]

theorem outcome_evaluateWithin_succ
    (hOpens : progress.Opens cell) :
    (sheet.evaluateWithin (room + 1) cell).outcome progress =
      let inside := ((sheet.inquiry cell).run
        sheet.surroundings
        (sheet.evaluateWithin room)).outcome
          (progress.enter cell)
      (inside.1, sheet.closed cell inside.1 inside.2) := by
  simp only [evaluateWithin, Run.outcome_knownOr, hOpens.1,
    if_neg hOpens.2, Run.outcome_bind, Run.outcome_inside]
  cases ((sheet.inquiry cell).run sheet.surroundings
      (sheet.evaluateWithin room)).outcome
        (progress.enter cell) with
  | mk result after =>
      cases result with
      | error failure => rfl
      | ok value =>
          by_cases hKeep : sheet.settings.memoize = true
          · simp [keep, hKeep, closed]
          · simp [keep, hKeep, closed]

variable {related : Progress → Progress → Prop}

/- All is kept where no evaluation may begin. -/
theorem evaluateWithin_keeps_of_opens
    (hKept : Progress.IsKept related)
    (hOpens : ∀ progress, progress.Opens cell →
      related progress
        ((sheet.evaluateWithin room cell).outcome
          progress).2) :
    (sheet.evaluateWithin room cell).Keeps related := by
  intro progress
  rcases progress.known_or_busy_or_opens cell with
    ⟨value, hKnown⟩ | ⟨hKnown, hBusy⟩ | hOpen
  · rw [sheet.outcome_evaluateWithin_of_known room hKnown]
    exact hKept.refl progress
  · rw [sheet.outcome_evaluateWithin_of_busy room hKnown
      hBusy]
    exact hKept.refl progress
  · exact hOpens progress hOpen

/-
  Evaluations keep what is kept from the entry of a cell to
  the end of its evaluation.
-/
theorem evaluateWithin_keeps
    (hKept : Progress.IsKept related)
    (hClosed : ∀ cell (before after : Progress) result,
      before.Opens cell →
      related (before.enter cell) after →
        related before (sheet.closed cell result after))
    (cell : Cell) :
    (sheet.evaluateWithin room cell).Keeps related := by
  induction room generalizing cell with
  | zero =>
      apply sheet.evaluateWithin_keeps_of_opens 0 hKept
      intro progress hOpens
      rw [sheet.outcome_evaluateWithin_zero hOpens]
      exact hKept.refl progress
  | succ room ih =>
      apply sheet.evaluateWithin_keeps_of_opens (room + 1)
        hKept
      intro progress hOpens
      rw [sheet.outcome_evaluateWithin_succ room hOpens]
      exact hClosed _ _ _ _ hOpens
        (Inquiry.run_keeps hKept ih _ _)

end Sheet

end Spreadsheet

------------------------------------------------------------
-- The Guard
------------------------------------------------------------

namespace Spreadsheet

/-
  Two progresses have the same guard: the same busy cells on
  the same path.
-/
structure SameGuard
    (before after : Progress) : Prop where
  path_eq : after.path = before.path
  busy_eq : after.busy = before.busy

namespace SameGuard

variable {before after : Progress}

/- Guards that are the same stay so when a cell is entered. -/
theorem enter
    (hSame : SameGuard before after)
    (cell : Cell) :
    SameGuard (before.enter cell) (after.enter cell) where
  path_eq := by
    change cell :: after.path = cell :: before.path
    rw [hSame.path_eq]
  busy_eq := by
    change after.busy.insert cell = before.busy.insert cell
    rw [hSame.busy_eq]

/- Guards that are the same stay so when a cell is left. -/
theorem leave
    (hSame : SameGuard before after)
    (cell : Cell) :
    SameGuard (before.leave cell) (after.leave cell) where
  path_eq := by
    change after.path.tail = before.path.tail
    rw [hSame.path_eq]
  busy_eq := by
    change after.busy.erase cell = before.busy.erase cell
    rw [hSame.busy_eq]

end SameGuard

theorem sameGuard_isKept :
    Progress.IsKept SameGuard where
  refl _ := ⟨rfl, rfl⟩
  trans hFirst hSecond :=
    ⟨hSecond.path_eq.trans hFirst.path_eq,
      hSecond.busy_eq.trans hFirst.busy_eq⟩
  draw _ := ⟨rfl, rfl⟩
  look _ := ⟨rfl, rfl⟩

/- A cell that was not in a set leaves it as it came. -/
theorem CellSet.erase_insert
    {cells : CellSet}
    {cell : Cell}
    (hNew : cell ∉ cells) :
    (cells.insert cell).erase cell = cells := by
  apply Std.ExtTreeSet.ext_mem
  intro other
  rw [Std.ExtTreeSet.mem_erase, Std.ExtTreeSet.mem_insert]
  constructor
  · rintro ⟨hDiffers, hSame | hOther⟩
    · exact absurd hSame hDiffers
    · exact hOther
  · intro hOther
    refine ⟨?_, Or.inr hOther⟩
    intro hSame
    rw [Std.LawfulEqCmp.eq_of_compare hSame] at hNew
    exact hNew hOther

namespace Sheet

variable (sheet : Sheet)

/-
  What begins on a guard ends on the same one: the last cell
  on the path is the one that was entered, and it was not busy
  before.
-/
theorem sameGuard_closed
    {cell : Cell}
    (result : Except Failure Value)
    {before after : Progress}
    (hBusy : cell ∉ before.busy)
    (hInside : SameGuard (before.enter cell) after) :
    SameGuard before (sheet.closed cell result after) := by
  have hEnds :
      SameGuard before ((before.enter cell).leave cell) :=
    ⟨rfl, CellSet.erase_insert hBusy⟩
  have hLeave : SameGuard before (after.leave cell) :=
    sameGuard_isKept.trans hEnds (hInside.leave cell)
  unfold closed
  split
  · split
    · exact ⟨hLeave.path_eq, hLeave.busy_eq⟩
    · exact hLeave
  · exact hLeave

theorem evaluateWithin_keeps_guard
    (room : Nat)
    (cell : Cell) :
    (sheet.evaluateWithin room cell).Keeps SameGuard :=
  sheet.evaluateWithin_keeps room sameGuard_isKept
    (fun _ _ _ result hOpens hInside =>
      sheet.sameGuard_closed result hOpens.2 hInside)
    cell

end Sheet

end Spreadsheet

------------------------------------------------------------
-- The Four Cases
------------------------------------------------------------

namespace Spreadsheet

namespace Sheet

variable (sheet : Sheet)
variable {cell : Cell}
variable {progress : Progress}

/- The path says how much room there is. -/
theorem outcome_evaluateCell
    (cell : Cell)
    (progress : Progress) :
    (sheet.evaluateCell cell).outcome progress =
      (sheet.evaluateWithin
        (sheet.settings.maxDepth - progress.path.length)
        cell).outcome progress := by
  simp [evaluateCell, Run.outcome_bind]

theorem evaluateCell_keeps
    {related : Progress → Progress → Prop}
    (hKept : Progress.IsKept related)
    (hClosed : ∀ cell (before after : Progress) result,
      before.Opens cell →
      related (before.enter cell) after →
        related before (sheet.closed cell result after))
    (cell : Cell) :
    (sheet.evaluateCell cell).Keeps related := by
  intro progress
  rw [outcome_evaluateCell]
  exact sheet.evaluateWithin_keeps _ hKept hClosed cell
    progress

/- What evaluations keep is kept by a whole inquiry. -/
theorem resolve_keeps
    {α : Type}
    {related : Progress → Progress → Prop}
    (hKept : Progress.IsKept related)
    (hKeeps : ∀ cell, (sheet.evaluateCell cell).Keeps related)
    (inquiry : Inquiry α) :
    (sheet.resolve inquiry).Keeps related :=
  Inquiry.run_keeps hKept hKeeps inquiry

/- However an evaluation ends, it leaves the guard as it was. -/
theorem evaluateCell_keeps_guard
    (cell : Cell) :
    (sheet.evaluateCell cell).Keeps SameGuard :=
  sheet.evaluateCell_keeps sameGuard_isKept
    (fun _ _ _ result hOpens hInside =>
      sheet.sameGuard_closed result hOpens.2 hInside)
    cell

/-
  Where the path leaves a number of cells, an inquiry within
  this number and one that reads it off the path agree.
-/
theorem run_evaluateWithin
    {α : Type}
    (inquiry : Inquiry α)
    (room : Nat)
    (hRoom :
      sheet.settings.maxDepth - progress.path.length = room) :
    (inquiry.run sheet.surroundings
        (sheet.evaluateWithin room)).outcome progress =
      (sheet.resolve inquiry).outcome progress := by
  induction inquiry generalizing progress with
  | settled result => rfl
  | asking cell next ih =>
      have hAnswer :=
        sheet.outcome_evaluateCell cell progress
      rw [hRoom] at hAnswer
      have hGuard :=
        sheet.evaluateWithin_keeps_guard room cell progress
      rw [resolve, Inquiry.outcome_run_asking,
        Inquiry.outcome_run_asking, hAnswer]
      apply ih
      rw [hGuard.path_eq, hRoom]
  | drawing next ih => exact ih _ hRoom
  | dating next ih => exact ih _ hRoom
  | fitting length next ih => exact ih _ hRoom

/- A known value is the result, and nothing else happens. -/
theorem outcome_known
    {value : Value}
    (hKnown : progress.known[cell]? = some value) :
    (sheet.evaluateCell cell).outcome progress =
      (.ok value, progress) := by
  rw [outcome_evaluateCell]
  exact sheet.outcome_evaluateWithin_of_known _ hKnown

/- A busy cell closes a circle, and nothing else happens. -/
theorem outcome_busy
    (hKnown : progress.known[cell]? = none)
    (hBusy : cell ∈ progress.busy) :
    (sheet.evaluateCell cell).outcome progress =
      (.error (.circular (progress.circle cell)),
        progress) := by
  rw [outcome_evaluateCell]
  exact sheet.outcome_evaluateWithin_of_busy _ hKnown hBusy

/- On a path without room no evaluation begins. -/
theorem outcome_full
    (hOpens : progress.Opens cell)
    (hFull :
      sheet.settings.maxDepth ≤ progress.path.length) :
    (sheet.evaluateCell cell).outcome progress =
      (.error (.tooDeep sheet.settings.maxDepth),
        progress) := by
  rw [outcome_evaluateCell, Nat.sub_eq_zero_of_le hFull]
  exact sheet.outcome_evaluateWithin_zero hOpens

/- An evaluation that begins makes its inquiry and ends. -/
theorem outcome_begun
    (hOpens : progress.Opens cell)
    (hRoom :
      progress.path.length < sheet.settings.maxDepth) :
    (sheet.evaluateCell cell).outcome progress =
      let inside := (sheet.resolve
        (sheet.inquiry cell)).outcome (progress.enter cell)
      (inside.1, sheet.closed cell inside.1 inside.2) := by
  have hSucc :
      sheet.settings.maxDepth - progress.path.length =
        sheet.settings.maxDepth -
          (progress.enter cell).path.length + 1 := by
    simp only [Progress.enter, List.length_cons]
    omega
  rw [outcome_evaluateCell, hSucc,
    sheet.outcome_evaluateWithin_succ _ hOpens]
  simp only [sheet.run_evaluateWithin _ _ rfl]

/-
  What can be shown in each of the four cases holds of every
  evaluation.  Where an evaluation begins, the cells that it
  asks about have less room.
-/
theorem evaluateCell_cases
    {motive : Cell → Progress → Prop}
    (known : ∀ cell progress value,
      progress.known[cell]? = some value →
        motive cell progress)
    (busy : ∀ cell progress,
      progress.known[cell]? = none →
      cell ∈ progress.busy →
        motive cell progress)
    (full : ∀ cell progress,
      progress.Opens cell →
      sheet.settings.maxDepth ≤ progress.path.length →
        motive cell progress)
    (begun : ∀ cell (progress : Progress),
      progress.Opens cell →
      progress.path.length < sheet.settings.maxDepth →
      (∀ other (inner : Progress),
        inner.path = cell :: progress.path →
          motive other inner) →
        motive cell progress)
    (cell : Cell)
    (progress : Progress) :
    motive cell progress := by
  induction hRoom :
      sheet.settings.maxDepth - progress.path.length
      using Nat.strongRecOn generalizing cell progress with
  | ind room ih =>
      rcases progress.known_or_busy_or_opens cell with
        ⟨value, hKnown⟩ | ⟨hKnown, hBusy⟩ | hOpens
      · exact known _ _ value hKnown
      · exact busy _ _ hKnown hBusy
      · by_cases hFull :
            sheet.settings.maxDepth ≤ progress.path.length
        · exact full _ _ hOpens hFull
        · refine begun _ _ hOpens (by omega) ?_
          intro other inner hPath
          refine ih _ ?_ other inner rfl
          rw [hPath, List.length_cons]
          omega

end Sheet

end Spreadsheet

------------------------------------------------------------
-- Known Values
------------------------------------------------------------

namespace Spreadsheet

/- The values that are known stay the same. -/
def SameKnown
    (before after : Progress) : Prop :=
  after.known = before.known

theorem sameKnown_isKept :
    Progress.IsKept SameKnown where
  refl _ := rfl
  trans hFirst hSecond := hSecond.trans hFirst
  draw _ := rfl
  look _ := rfl

/- Where values are not kept, nothing becomes known. -/
theorem Sheet.evaluateCell_keeps_known
    (sheet : Sheet)
    (hMemoize : sheet.settings.memoize = false)
    (cell : Cell) :
    (sheet.evaluateCell cell).Keeps SameKnown := by
  refine sheet.evaluateCell_keeps sameKnown_isKept ?_ cell
  intro cell before after result hOpens hInside
  unfold closed
  rw [hMemoize]
  split
  · exact hInside
  · exact hInside

end Spreadsheet
