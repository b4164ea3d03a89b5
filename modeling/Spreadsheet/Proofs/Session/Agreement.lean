import Spreadsheet.Proofs.Session.History
import Spreadsheet.Proofs.Session.Recalculation
import Spreadsheet.Proofs.Sheet.Unguarded

/-
  A recalculation and its cells.

  One session shows all cells of a grid.  Where values are not
  kept, no formula is random and the clock stands still, each
  of them is shown as by a new sheet that shows nothing else:
  what the cells before it have left behind is of no effect.
  The rectangle that is shown, the table of failures and the
  events then all follow from the cells taken one by one.

  Key definitions include:
    * `Spreadsheet.Progress.Clear`
    * `Spreadsheet.Sheet.drawing`
    * `Spreadsheet.Sheet.computed`
    * `Spreadsheet.Sheet.failures`

  Main results:
    * `Spreadsheet.Sheet.agree_of_clear`
    * `Spreadsheet.Sheet.run_displayCell_of_clear`
    * `Spreadsheet.Sheet.failuresAt_of_clear`
    * `Spreadsheet.Sheet.displayGrid_agrees`
-/

------------------------------------------------------------
-- Clear Progress
------------------------------------------------------------

namespace Spreadsheet

namespace Progress

/- Nothing is in progress and no value is known. -/
structure Clear
    (progress : Progress) : Prop where
  idle : progress.Idle
  unknown : progress.known = ∅

theorem Clear.start : Progress.start.Clear :=
  ⟨⟨rfl, rfl⟩, rfl⟩

/- Clear progress is new but for what has been asked for. -/
theorem Clear.shifted
    {progress : Progress}
    (hClear : progress.Clear) :
    progress.Shifted progress.drawn progress.looked .start where
  known_eq := hClear.unknown
  busy_eq := hClear.idle.busy_eq
  path_eq := hClear.idle.path_eq
  drawn_eq := rfl
  looked_eq := rfl

end Progress

namespace Sheet

/- The same sheet with other random numbers. -/
def drawing
    (sheet : Sheet)
    (random : Nat → Float) :
    Sheet :=
  {
    sheet with
    surroundings := { sheet.surroundings with random }
  }

variable {sheet : Sheet}
variable {session : Session}

/-
  A clock that stands still shows the same time however often
  it was read.
-/
theorem agree_drawing
    (hSteady : sheet.Steady)
    (random : Nat → Float)
    (drawn looked : Nat) :
    sheet.surroundings.Agree
      (Progress.Shifted drawn looked) False
      (sheet.drawing random).surroundings where
  random hNever := hNever.elim
  clock {p q} hShifted := by
    have hClock :
        sheet.surroundings.clock p.looked =
          sheet.surroundings.clock q.looked := by
      rw [hSteady.clock_eq, hSteady.clock_eq]
    refine ⟨hClock, { hShifted with looked_eq := ?_ }⟩
    change p.looked + 1 = looked + (q.looked + 1)
    rw [hShifted.looked_eq]
    omega
  fits := rfl

/-
  From clear progress a cell is evaluated as on a new sheet,
  whatever its random numbers are.
-/
theorem agree_of_clear
    (hSteady : sheet.Steady)
    (random : Nat → Float)
    (cell : Cell)
    {progress : Progress}
    (hClear : progress.Clear) :
    Agree
      (Progress.Shifted progress.drawn progress.looked)
      ((sheet.evaluateCell cell).outcome progress)
      (((sheet.drawing random).evaluateCell cell).outcome
        .start) :=
  evaluateCell_agree sheet (sheet.drawing random)
    (fun _ => True) rfl
    (agree_drawing hSteady random _ _)
    (fun cell _ => hSteady.not_random cell)
    (fun _ _ _ _ => trivial) (fun _ _ => rfl) trivial
    hClear.shifted

theorem result_of_clear
    (hSteady : sheet.Steady)
    (cell : Cell)
    {progress : Progress}
    (hClear : progress.Clear) :
    sheet.result ⟨cell, progress⟩ =
      sheet.result ⟨cell, .start⟩ :=
  (agree_of_clear hSteady sheet.surroundings.random cell
    hClear).1

/- Where values are not kept, progress stays clear. -/
theorem clear_displayCell
    (hMemoize : sheet.settings.memoize = false)
    (cell : Cell)
    (hClear : session.progress.Clear) :
    ((sheet.displayCell cell).run
      session).2.progress.Clear := by
  refine displayCell_preserves ?_ hClear
  intro visit hVisit hBefore
  have hGuard :=
    sheet.evaluateCell_keeps_guard visit.cell visit.progress
  have hKnown :=
    sheet.evaluateCell_keeps_known hMemoize visit.cell
      visit.progress
  exact ⟨hBefore.idle.of_sameGuard hGuard,
    hKnown.trans hBefore.unknown⟩

end Sheet

end Spreadsheet

------------------------------------------------------------
-- Cells One By One
------------------------------------------------------------

namespace Spreadsheet

namespace Sheet

variable {sheet : Sheet}
variable {session : Session}

/- What a cell shows on a new sheet. -/
def computed
    (sheet : Sheet)
    (cell : Cell) :
    String :=
  ((sheet.displayCell cell).run .start).1

/-
  The formulas that fail on a new sheet, with their failures,
  row by row.
-/
def failures
    (sheet : Sheet) :
    List Failed :=
  sheet.failuresAt
    (sheet.grid.formulaCells.map fun cell => ⟨cell, .start⟩)

/- A cell fails if its evaluation on a new sheet does. -/
theorem mem_failures_iff
    {failed : Failed} :
    failed ∈ sheet.failures ↔
      isFormula (sheet.grid.read failed.cell) = true ∧
        sheet.result ⟨failed.cell, .start⟩ =
          .error failed.failure := by
  simp only [failures, failuresAt, List.mem_filterMap,
    List.mem_map, failedAt?_eq_some_iff]
  constructor
  · rintro ⟨_, ⟨cell, hCell, rfl⟩, hSame, hResult⟩
    rw [hSame]
    exact ⟨Grid.mem_formulaCells_iff.mp hCell, hResult⟩
  · rintro ⟨hFormula, hResult⟩
    exact ⟨_, ⟨failed.cell,
      Grid.mem_formulaCells_iff.mpr hFormula, rfl⟩, rfl,
      hResult⟩

/- In a clear session a cell shows what it shows on its own. -/
theorem run_displayCell_of_clear
    (hSteady : sheet.Steady)
    (hMemoize : sheet.settings.memoize = false)
    (random : Nat → Float)
    (cell : Cell)
    (hClear : session.progress.Clear) :
    ((sheet.displayCell cell).run session).1 =
        (sheet.drawing random).computed cell ∧
      ((sheet.displayCell cell).run
        session).2.progress.Clear := by
  refine ⟨?_, clear_displayCell hMemoize cell hClear⟩
  have hSessions :
      session.Agree
        (Progress.Shifted session.progress.drawn
          session.progress.looked)
        False .start :=
    ⟨hClear.shifted, False.elim⟩
  have hGrid :
      sheet.grid = (sheet.drawing random).grid := rfl
  have hAlike :
      Session.Alike
        (Progress.Shifted session.progress.drawn
          session.progress.looked) False
        ((sheet.displayCell cell).run session)
        (((sheet.drawing random).displayCell cell).run
          .start) := by
    apply alike_displayCell hGrid rfl hSessions
    intro visit hVisit q hShifted
    exact evaluateCell_agree sheet (sheet.drawing random)
      (fun _ => True) rfl
      (agree_drawing hSteady random _ _)
      (fun cell _ => hSteady.not_random cell)
      (fun _ _ _ _ => trivial) (fun _ _ => rfl) trivial
      hShifted
  exact hAlike.1

/-
  Steps that give the same for each item in whatever session
  of a kind, and leave one of this kind, give it for all.
-/
theorem run_mapM_of_kept
    {α β : Type}
    {step : α → StateM Session β}
    {given : α → β}
    (kept : Session → Prop)
    (hStep : ∀ item session, kept session →
      ((step item).run session).1 = given item ∧
        kept ((step item).run session).2)
    (items : List α)
    (hKept : kept session) :
    ((items.mapM step).run session).1 = items.map given ∧
      kept ((items.mapM step).run session).2 := by
  induction items generalizing session with
  | nil => exact ⟨rfl, hKept⟩
  | cons item rest ih =>
      rcases hStep item session hKept with ⟨hFirst, hAfter⟩
      rcases ih hAfter with ⟨hRest, hEnd⟩
      rw [run_mapM_cons]
      refine ⟨?_, hEnd⟩
      simp only [hFirst, hRest, List.map_cons]

/- In a clear session cells fail as they do on their own. -/
theorem failuresAt_of_clear
    (hSteady : sheet.Steady)
    (hMemoize : sheet.settings.memoize = false)
    (cells : List Cell)
    (hClear : session.progress.Clear) :
    sheet.failuresAt (sheet.shownVisits cells session) =
      sheet.failuresAt
        ((cells.filter fun cell =>
          isFormula (sheet.grid.read cell)).map
            fun cell => ⟨cell, .start⟩) := by
  induction cells generalizing session with
  | nil => rfl
  | cons cell rest ih =>
      have hRest :=
        ih (clear_displayCell hMemoize cell hClear)
      rw [shownVisits, List.filter_cons]
      cases isFormula (sheet.grid.read cell) with
      | false => exact hRest
      | true =>
          have hFailed :
              sheet.failedAt? ⟨cell, session.progress⟩ =
                sheet.failedAt? ⟨cell, .start⟩ := by
            simp only [failedAt?,
              result_of_clear hSteady cell hClear]
          unfold failuresAt at hRest ⊢
          simp only [if_true, List.map_cons,
            List.filterMap_cons, hFailed, hRest]

end Sheet

end Spreadsheet

------------------------------------------------------------
-- Events Of Failures
------------------------------------------------------------

namespace Spreadsheet

namespace Sheet

/-
  An event reports a failed cell: it names the cell, and its
  type tells circles and unknown functions from all other
  failures.
-/
structure Reports
    (failed : Failed)
    (event : Event) : Prop where
  cell_eq :
    event.context.get? "cell" = some (.text failed.cell.label)
  type_eq :
    event.type =
      match failed.failure with
      | .circular _ => .circularReference
      | .unknownFunction _ => .unknownFunction
      | _ => .cellError

theorem reports_event
    (grid : Grid)
    (failed : Failed) :
    Reports failed (failed.event grid) where
  cell_eq := rfl
  type_eq := rfl

end Sheet

end Spreadsheet

------------------------------------------------------------
-- Recalculations And Cells
------------------------------------------------------------

namespace Spreadsheet

namespace Sheet

variable {sheet : Sheet}

/- A new sheet recalculates its cells one by one. -/
theorem displayGrid_texts
    (hSteady : sheet.Steady)
    (hMemoize : sheet.settings.memoize = false)
    (duration : Document)
    (random : Nat → Float) :
    ((sheet.displayGrid duration).run .start).1 =
      sheet.grid.places.map
        (List.map (sheet.drawing random).computed) := by
  rw [run_displayGrid]
  refine (run_mapM_of_kept (fun s => s.progress.Clear) ?_
    sheet.grid.places Progress.Clear.start).1
  intro row session hClear
  exact run_mapM_of_kept (fun s => s.progress.Clear)
    (fun cell session hClear =>
      run_displayCell_of_clear hSteady hMemoize random cell
        hClear)
    row hClear

/- The cells that fail in it are those that fail alone. -/
theorem failuresAt_displayGrid
    (hSteady : sheet.Steady)
    (hMemoize : sheet.settings.memoize = false)
    (duration : Document) :
    sheet.failuresAt
        (sheet.askedBy .start (.displayGrid duration)) =
      sheet.failures :=
  failuresAt_of_clear hSteady hMemoize
    sheet.grid.places.flatten Progress.Clear.start

/- The item of a rectangle over the cells of a grid. -/
theorem getElem?_places
    {α : Type}
    (grid : Grid)
    (given : Cell → α)
    {row col : Nat}
    (hRow : row < grid.length)
    (hCol : col < grid.columns) :
    ((grid.places.map (List.map given))[row]?).bind
        (fun cells => cells[col]?) =
      some (given ⟨row, col⟩) := by
  simp only [Grid.places, List.getElem?_map,
    List.getElem?_range hRow, Option.map_some,
    Option.bind_some, List.getElem?_range hCol]

/- The rectangle is as high and as wide as the grid. -/
theorem extent_places
    {α : Type}
    (grid : Grid)
    (given : Cell → α) :
    (grid.places.map (List.map given)).length =
        grid.length ∧
      ∀ row ∈ grid.places.map (List.map given),
        row.length = grid.columns := by
  constructor
  · simp only [Grid.places, List.length_map,
      List.length_range]
  · simp only [Grid.places, List.map_map, List.mem_map,
      forall_exists_index, and_imp]
    rintro _ index - rfl
    simp only [Function.comp_apply, List.length_map,
      List.length_range]

/-
  A recalculation on a new sheet that keeps no values, has no
  random formulas and a clock that stands still agrees with
  its cells taken one by one, each on a new sheet with random
  numbers of its own.  It shows the whole rectangle.  The
  formulas that fail, row by row, are the entries of the table
  and are reported one by one, between the reports of its
  beginning and its end.
-/
theorem displayGrid_agrees
    (sheet : Sheet)
    (hMemoize : sheet.settings.memoize = false)
    (hRandom : ∀ cell, ¬sheet.grid.IsRandomAt cell)
    (hClock : ∀ index,
      sheet.surroundings.clock index =
        sheet.surroundings.clock 0)
    (duration : Document) :
    let run := (sheet.displayGrid duration).run .start
    let rows := sheet.grid.length
    let cols := sheet.grid.columns
    (run.1.length = rows ∧
      ∀ row ∈ run.1, row.length = cols) ∧
    (∀ random row col, row < rows → col < cols →
      (run.1[row]?).bind (fun cells => cells[col]?) =
        some ((sheet.drawing random).computed
          ⟨row, col⟩)) ∧
    ((∀ failed, failed ∈ sheet.failures ↔
        isFormula (sheet.grid.read failed.cell) = true ∧
          sheet.result ⟨failed.cell, .start⟩ =
            .error failed.failure) ∧
      (sheet.failures.map (·.cell)).Sublist
        sheet.grid.places.flatten) ∧
    (run.2.errors =
        sheet.failures.map (fun failed =>
          (failed.cell.label,
            failed.failure.recordedMessage)) ∧
      run.2.errors.labels.Nodup) ∧
    ∃ events,
      run.2.events =
        startedEvent rows cols :: events ++
          [completedEvent rows cols sheet.failures.length
            duration] ∧
      List.Forall₂ Reports sheet.failures events := by
  intro run rows cols
  have hSteady : sheet.Steady := ⟨hRandom, hClock⟩
  have hTexts := displayGrid_texts hSteady hMemoize duration
  have hFailures :=
    failuresAt_displayGrid hSteady hMemoize duration
  have hReports := sheet.displayGrid_reports duration .start
  have hCount :=
    (sheet.displayGrid_counts_new_failures duration
      .start).2.mpr (fun _ _ => List.not_mem_nil)
  have hNodup := sheet.nodup_labels_displayGrid duration .start
  have hOrder :
      ((sheet.failuresAt (sheet.askedBy .start
        (.displayGrid duration))).map (·.cell)).Sublist
          sheet.grid.places.flatten :=
    (sheet.cells_failuresAt_sublist _).trans
      (sheet.cells_askedBy_displayGrid_sublist duration _)
  rw [hFailures] at hReports hCount hNodup hOrder
  have hErrors :
      run.2.errors = sheet.failures.map Failed.entry := by
    rw [hReports.1]
    exact ErrorTable.enterAll_of_new hNodup
      (fun _ _ => List.not_mem_nil)
  refine ⟨?extent, ?texts, ⟨?failing, hOrder⟩,
    ⟨hErrors, ?labels⟩, ?events⟩
  case extent =>
    rw [show run.1 = _ from
      hTexts sheet.surroundings.random]
    exact extent_places sheet.grid _
  case texts =>
    intro random row col hRow hCol
    rw [show run.1 = _ from hTexts random]
    exact getElem?_places sheet.grid _ hRow hCol
  case failing =>
    intro failed
    exact mem_failures_iff
  case labels =>
    rw [hErrors]
    exact hNodup
  case events =>
    refine ⟨sheet.failures.map (Failed.event sheet.grid),
      ?_, ?_⟩
    · rw [hReports.2, hCount]
      rfl
    · rw [List.forall₂_map_right_iff]
      exact List.forall₂_same.mpr
        (fun failed _ => reports_event sheet.grid failed)

/-
  A sheet with a row that is missing, a formula that fails, one
  that swallows this failure and one that passes it on.
-/
def ragged : Sheet where
  grid :=
    [
      some [some "=1/0", some "=IFERROR(A1,\"x\")"],
      none,
      some [some "=FOO()", none, some "=A1&B1"]
    ]
  settings := ⟨5, 10, false, false, 1⟩
  surroundings := .still

/- Of its four formulas three fail, and each of them once. -/
theorem displayGrid_agrees_ragged :
    ragged.settings.memoize = false ∧
    (∀ cell, ¬ragged.grid.IsRandomAt cell) ∧
    (∀ index,
      ragged.surroundings.clock index =
        ragged.surroundings.clock 0) ∧
    let run :=
      (ragged.displayGrid (.whole 0)).run .start
    run.2.errors.labels = ["A1", "A3", "C3"] ∧
    (∀ row ∈ run.1, row.length = 3) ∧
    ∃ events,
      run.2.events =
        startedEvent 3 3 :: events ++
          [completedEvent 3 3 3 (.whole 0)] ∧
      List.Forall₂ Reports ragged.failures events := by
  have hRandom :
      ∀ cell, ¬ragged.grid.IsRandomAt cell :=
    Grid.not_isRandomAt (by decide +kernel)
  have hFailures :
      ragged.failures.map (fun failed => failed.cell.label) =
        ["A1", "A3", "C3"] := by
    decide +kernel
  have hLength : ragged.failures.length = 3 := by
    simpa using congrArg List.length hFailures
  rcases ragged.displayGrid_agrees rfl hRandom
      (fun _ => rfl) (.whole 0) with
    ⟨⟨-, hCols⟩, -, -, ⟨hErrors, -⟩, hEvents⟩
  rw [hLength] at hEvents
  refine ⟨rfl, hRandom, fun _ => rfl, ?_, hCols, hEvents⟩
  rw [hErrors, ← hFailures, ErrorTable.labels, List.map_map]
  rfl

end Sheet

end Spreadsheet
