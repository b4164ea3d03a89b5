import Spreadsheet.Proofs.Address.Label
import Spreadsheet.Proofs.Session.Request
import Spreadsheet.Proofs.Sheet.Stop

/-
  Reports of recalculations.

  Whatever a session has seen before, a recalculation reports
  each of the evaluations that it asks for and that fails, in
  order, between its own two reports.  The table of failures
  keeps the place of a label that it has, so that it grows by
  the labels that are new to it, and this growth is what the
  last report gives as the number of failures.

  Key definitions include:
    * `Spreadsheet.ErrorTable.enterAll`
    * `Spreadsheet.Sheet.Failed`
    * `Spreadsheet.Sheet.failuresAt`
    * `Spreadsheet.Sheet.newFailures`

  Main results:
    * `Spreadsheet.ErrorTable.length_enterAll`
    * `Spreadsheet.Sheet.run_displayCells`
    * `Spreadsheet.Sheet.displayGrid_reports`
-/

------------------------------------------------------------
-- Tables Of Failures
------------------------------------------------------------

namespace Spreadsheet

namespace ErrorTable

/- The labels that have a message. -/
def labels
    (table : ErrorTable) :
    List String :=
  table.map (·.1)

@[simp] theorem labels_cons
    (entry : String × String)
    (rest : ErrorTable) :
    labels (entry :: rest) = entry.1 :: rest.labels :=
  rfl

@[simp] theorem labels_append
    (first rest : ErrorTable) :
    labels (first ++ rest) = first.labels ++ rest.labels :=
  List.map_append

@[simp] theorem length_labels
    (table : ErrorTable) :
    table.labels.length = List.length table :=
  List.length_map _

/- Enter messages one after the other. -/
def enterAll
    (table given : ErrorTable) :
    ErrorTable :=
  given.foldl
    (fun table entry => table.enter entry.1 entry.2) table

theorem enterAll_append
    (table first rest : ErrorTable) :
    table.enterAll (first ++ rest) =
      (table.enterAll first).enterAll rest :=
  List.foldl_append

/- A label that has a message keeps its place. -/
theorem labels_enter
    (table : ErrorTable)
    (label message : String) :
    (table.enter label message).labels =
      if label ∈ table.labels then
        table.labels
      else
        table.labels ++ [label] := by
  induction table with
  | nil => rfl
  | cons entry rest ih =>
      rcases entry with ⟨other, old⟩
      by_cases hSame : other = label
      · simp [enter, hSame]
      · have hOther : ¬label = other := fun h => hSame h.symm
        rw [enter, if_neg hSame, labels_cons, ih]
        simp only [labels_cons, List.mem_cons, hOther, false_or]
        split
        · rfl
        · rfl

/- A new label is entered behind the others. -/
theorem enter_of_new
    {table : ErrorTable}
    {label : String}
    (hNew : label ∉ table.labels)
    (message : String) :
    table.enter label message = table ++ [(label, message)] := by
  induction table with
  | nil => rfl
  | cons entry rest ih =>
      rcases entry with ⟨other, old⟩
      simp only [labels_cons, List.mem_cons, not_or] at hNew
      have hOther : ¬other = label := fun h => hNew.1 h.symm
      simp only [enter, if_neg hOther, List.cons_append]
      rw [ih hNew.2]

/- New labels, all different, are entered behind the others. -/
theorem enterAll_of_new
    {table given : ErrorTable}
    (hNodup : given.labels.Nodup)
    (hNew : ∀ label ∈ given.labels, label ∉ table.labels) :
    table.enterAll given = table ++ given := by
  induction given generalizing table with
  | nil => exact (List.append_nil table).symm
  | cons entry rest ih =>
      rw [labels_cons] at hNodup hNew
      rw [List.nodup_cons] at hNodup
      rw [List.forall_mem_cons] at hNew
      have hEntered := enter_of_new hNew.1 entry.2
      have hRest :
          ∀ label ∈ labels rest,
            label ∉ labels (table ++ [entry]) := by
        intro label hLabel
        rw [labels_append, List.mem_append, not_or]
        refine ⟨hNew.2 label hLabel, ?_⟩
        intro hSame
        rw [List.mem_singleton.mp hSame] at hLabel
        exact hNodup.1 hLabel
      calc
        table.enterAll (entry :: rest) =
            (table.enter entry.1 entry.2).enterAll rest :=
          rfl
        _ = enterAll (table ++ [entry]) rest := by
          rw [hEntered]
        _ = table ++ entry :: rest := by
          rw [ih hNodup.2 hRest, List.append_assoc]
          rfl

/-
  A table grows by the labels that are new to it, each of
  which is entered once.
-/
theorem length_enterAll
    (table : ErrorTable)
    {given : ErrorTable}
    (hNodup : given.labels.Nodup) :
    (table.enterAll given).length =
      table.length +
        (given.filter fun entry =>
          entry.1 ∉ table.labels).length := by
  induction given generalizing table with
  | nil => rfl
  | cons entry rest ih =>
      rw [labels_cons, List.nodup_cons] at hNodup
      have hEntered := labels_enter table entry.1 entry.2
      have hStep :
          table.enterAll (entry :: rest) =
            (table.enter entry.1 entry.2).enterAll rest :=
        rfl
      rw [hStep, ih _ hNodup.2, ← length_labels, hEntered]
      by_cases hOld : entry.1 ∈ table.labels
      · rw [if_pos hOld, length_labels,
          List.filter_cons_of_neg (by simpa)]
      · rw [if_neg hOld, List.length_append, length_labels,
          List.filter_cons_of_pos (by simpa),
          List.length_cons, List.length_cons,
          List.length_nil]
        -- The label entered first is not met again.
        have hSame :
            (rest.filter fun other =>
                other.1 ∉ table.labels ++ [entry.1]) =
              rest.filter fun other =>
                other.1 ∉ table.labels := by
          apply List.filter_congr
          intro other hOther
          have hDiffers : ¬other.1 = entry.1 := by
            intro h
            exact hNodup.1 (h ▸ List.mem_map_of_mem hOther)
          simp [hDiffers]
        rw [hSame]
        omega

end ErrorTable

end Spreadsheet

------------------------------------------------------------
-- Failures Of Evaluations
------------------------------------------------------------

namespace Spreadsheet

namespace Sheet

/- A cell whose evaluation failed, and why it did. -/
structure Failed where
  cell : Cell
  failure : Failure

namespace Failed

/- The entry of a failed cell in a table of failures. -/
def entry
    (failed : Failed) :
    String × String :=
  (failed.cell.label, failed.failure.recordedMessage)

/- The event that reports a failed cell of a grid. -/
def event
    (grid : Grid)
    (failed : Failed) :
    Event :=
  failed.failure.event failed.cell.label
    (grid.read failed.cell)

end Failed

/- The failure that a visit comes to, if it comes to one. -/
def failedAt?
    (sheet : Sheet)
    (visit : Visit) :
    Option Failed :=
  match sheet.result visit with
  | .ok _ => none
  | .error failure => some ⟨visit.cell, failure⟩

/- The failures that visits come to. -/
def failuresAt
    (sheet : Sheet)
    (visits : List Visit) :
    List Failed :=
  visits.filterMap sheet.failedAt?

/- The failed cells whose labels a table does not have. -/
def newFailures
    (table : ErrorTable)
    (failures : List Failed) :
    List Failed :=
  failures.filter fun failed =>
    failed.cell.label ∉ table.labels

variable {sheet : Sheet}

theorem failedAt?_eq_some_iff
    {visit : Visit}
    {failed : Failed} :
    sheet.failedAt? visit = some failed ↔
      failed.cell = visit.cell ∧
        sheet.result visit = .error failed.failure := by
  rcases failed with ⟨cell, failure⟩
  unfold failedAt?
  cases sheet.result visit with
  | ok value => simp
  | error other => simp [eq_comm]

/- Failures are those of visits to cells, in their order. -/
theorem cells_failuresAt_sublist
    (sheet : Sheet)
    (visits : List Visit) :
    ((sheet.failuresAt visits).map (·.cell)).Sublist
      (visits.map (·.cell)) := by
  induction visits with
  | nil => exact List.Sublist.refl _
  | cons visit rest ih =>
      unfold failuresAt at ih ⊢
      rw [List.filterMap_cons]
      cases hFailed : sheet.failedAt? visit with
      | none => exact ih.cons _
      | some failed =>
          have hCell := (failedAt?_eq_some_iff.mp hFailed).1
          simp only [List.map_cons, hCell]
          exact ih.cons_cons _

/- The cells that are asked for are among those shown. -/
theorem cells_shownVisits_sublist
    (cells : List Cell)
    (session : Session) :
    ((sheet.shownVisits cells session).map
      (·.cell)).Sublist cells := by
  induction cells generalizing session with
  | nil => exact List.Sublist.refl _
  | cons cell rest ih =>
      rw [shownVisits]
      split
      · exact (ih _).cons_cons _
      · exact (ih _).cons _

/-
  Cells of a grid that failed, each of them once, have
  different labels.
-/
theorem nodup_labels
    {failures : List Failed}
    (hCells : (failures.map (·.cell)).Nodup)
    (hCols : ∀ failed ∈ failures, 0 ≤ failed.cell.col) :
    (ErrorTable.labels (failures.map Failed.entry)).Nodup := by
  have hLabels :
      ErrorTable.labels (failures.map Failed.entry) =
        (failures.map (·.cell)).map Cell.label := by
    simp [ErrorTable.labels, Failed.entry, Function.comp_def]
  rw [hLabels]
  apply List.Nodup.map_on ?_ hCells
  intro cell hCell other hOther hSame
  rcases List.mem_map.mp hOther with ⟨failed, hFailed, rfl⟩
  exact Cell.eq_of_label_eq (hCols failed hFailed) hSame

end Sheet

end Spreadsheet

------------------------------------------------------------
-- Showing Cells
------------------------------------------------------------

namespace Spreadsheet

namespace Sheet

variable {sheet : Sheet}
variable {session : Session}

/- A session with further failures entered and reported. -/
def Tells
    (sheet : Sheet)
    (failures : List Failed)
    (before after : Session) : Prop :=
  after.errors =
      before.errors.enterAll (failures.map Failed.entry) ∧
    after.events =
      before.events ++
        failures.map (Failed.event sheet.grid)

theorem Tells.trans
    {first rest : List Failed}
    {before between after : Session}
    (hFirst : sheet.Tells first before between)
    (hRest : sheet.Tells rest between after) :
    sheet.Tells (first ++ rest) before after := by
  rcases hFirst with ⟨hErrors, hEvents⟩
  rcases hRest with ⟨hErrors', hEvents'⟩
  constructor
  · rw [hErrors', hErrors, List.map_append,
      ErrorTable.enterAll_append]
  · rw [hEvents', hEvents, List.map_append,
      List.append_assoc]

/- To show a cell tells of its failure, if it fails. -/
theorem displayCell_tells
    (sheet : Sheet)
    (cell : Cell)
    (session : Session) :
    sheet.Tells
      (sheet.failuresAt (sheet.shownVisits [cell] session))
      session ((sheet.displayCell cell).run session).2 := by
  cases hFormula : isFormula (sheet.grid.read cell) with
  | false =>
      rw [sheet.run_displayCell_of_text hFormula]
      simp only [shownVisits, hFormula]
      exact ⟨rfl, (List.append_nil _).symm⟩
  | true =>
      rw [sheet.run_displayCell_of_formula hFormula]
      simp only [shownVisits, hFormula, if_true, failuresAt,
        List.filterMap_cons, List.filterMap_nil, failedAt?,
        result]
      cases ((sheet.evaluateCell cell).outcome
          session.progress).1 with
      | ok value => exact ⟨rfl, (List.append_nil _).symm⟩
      | error failure => exact ⟨rfl, rfl⟩

/- To show cells tells of all that fail, in order. -/
theorem run_displayCells
    (sheet : Sheet)
    (cells : List Cell)
    (session : Session) :
    sheet.Tells
      (sheet.failuresAt (sheet.shownVisits cells session))
      session
      ((cells.mapM sheet.displayCell).run session).2 := by
  induction cells generalizing session with
  | nil => exact ⟨rfl, (List.append_nil _).symm⟩
  | cons cell rest ih =>
      rw [shownVisits_cons, failuresAt,
        List.filterMap_append, run_mapM_cons]
      exact (sheet.displayCell_tells cell session).trans
        (ih _)

/- What is shown row by row is shown cell by cell. -/
theorem run_mapM_rows
    {α β : Type}
    (step : α → StateM Session β)
    (rows : List (List α))
    (session : Session) :
    ((rows.mapM (List.mapM step)).run session).2 =
      ((rows.flatten.mapM step).run session).2 := by
  have hAppend :
      ∀ (first rest : List α) (session : Session),
        (((first ++ rest).mapM step).run session).2 =
          ((rest.mapM step).run
            ((first.mapM step).run session).2).2 := by
    intro first rest session
    rw [List.mapM_append]
    rfl
  induction rows generalizing session with
  | nil => rfl
  | cons row rest ih =>
      rw [run_mapM_cons, List.flatten_cons, hAppend, ih]

end Sheet

end Spreadsheet

------------------------------------------------------------
-- Recalculations
------------------------------------------------------------

namespace Spreadsheet

namespace Sheet

open Session (Request)

variable {sheet : Sheet}
variable {session : Session}

/- A recalculation asks for cells of the grid, each once. -/
theorem cells_askedBy_displayGrid_sublist
    (sheet : Sheet)
    (duration : Document)
    (session : Session) :
    ((sheet.askedBy session
      (.displayGrid duration)).map (·.cell)).Sublist
        sheet.grid.places.flatten :=
  cells_shownVisits_sublist _ _

/- The failures of a recalculation have different labels. -/
theorem nodup_labels_displayGrid
    (sheet : Sheet)
    (duration : Document)
    (session : Session) :
    (ErrorTable.labels
      ((sheet.failuresAt (sheet.askedBy session
        (.displayGrid duration))).map
          Failed.entry)).Nodup := by
  have hCells :=
    (sheet.cells_failuresAt_sublist _).trans
      (sheet.cells_askedBy_displayGrid_sublist duration
        session)
  apply nodup_labels (sheet.grid.nodup_places.sublist hCells)
  intro failed hFailed
  exact Grid.col_nonneg_of_mem_places
    (hCells.subset (List.mem_map_of_mem hFailed))

/-
  A recalculation tells of the failures that it meets, between
  a report of its beginning and one of its end.  The number in
  the last one is that of the failed cells that had no message
  before.
-/
theorem displayGrid_reports
    (sheet : Sheet)
    (duration : Document)
    (session : Session) :
    let failures := sheet.failuresAt
      (sheet.askedBy session (.displayGrid duration))
    let after := ((sheet.displayGrid duration).run session).2
    let rows := sheet.grid.length
    let cols := sheet.grid.columns
    after.errors =
        session.errors.enterAll
          (failures.map Failed.entry) ∧
      after.events =
        session.events ++
          (startedEvent rows cols ::
            failures.map (Failed.event sheet.grid) ++
          [completedEvent rows cols
            (newFailures session.errors failures).length
            duration]) := by
  intro failures after rows cols
  let begun := session.report (startedEvent rows cols)
  let ended :=
    ((sheet.grid.places.mapM
      (List.mapM sheet.displayCell)).run begun).2
  have hTells : sheet.Tells failures begun ended := by
    have hCells :=
      sheet.run_displayCells sheet.grid.places.flatten begun
    rwa [← run_mapM_rows] at hCells
  have hErrors :
      ended.errors =
        session.errors.enterAll
          (failures.map Failed.entry) := hTells.1
  have hEvents :
      ended.events =
        session.events ++ [startedEvent rows cols] ++
          failures.map (Failed.event sheet.grid) := hTells.2
  have hNew :
      ((failures.map Failed.entry).filter fun entry =>
          entry.1 ∉ session.errors.labels).length =
        (newFailures session.errors failures).length := by
    rw [List.filter_map, List.length_map]
    rfl
  have hGrowth :
      (ended.errors.length : Int) - session.errors.length =
        (newFailures session.errors failures).length := by
    rw [hErrors, session.errors.length_enterAll
      (sheet.nodup_labels_displayGrid duration session), hNew]
    omega
  have hAfter :
      after =
        ended.report
          (completedEvent rows cols
            ((ended.errors.length : Int) -
              session.errors.length) duration) :=
    congrArg Prod.snd (sheet.run_displayGrid duration session)
  rw [hAfter, hGrowth]
  refine ⟨hErrors, ?_⟩
  simp only [Session.report, hEvents, List.append_assoc,
    List.cons_append, List.nil_append]

/-
  The number that a recalculation gives is that of the cells
  that failed and had no message before.  It is the number of
  all that failed, and so of the events between the first and
  the last one, if and only if none of them had a message.
-/
theorem displayGrid_counts_new_failures
    (sheet : Sheet)
    (duration : Document)
    (session : Session) :
    let failures := sheet.failuresAt
      (sheet.askedBy session (.displayGrid duration))
    let count :=
      (newFailures session.errors failures).length
    let rows := sheet.grid.length
    let cols := sheet.grid.columns
    ((sheet.displayGrid duration).run session).2.events =
        session.events ++
          (startedEvent rows cols ::
            failures.map (Failed.event sheet.grid) ++
          [completedEvent rows cols count duration]) ∧
      (count = failures.length ↔
        ∀ failed ∈ failures,
          failed.cell.label ∉ session.errors.labels) := by
  intro failures count rows cols
  refine ⟨(sheet.displayGrid_reports duration session).2, ?_⟩
  simp only [count, newFailures,
    List.length_filter_eq_length_iff, decide_eq_true_eq]

/- A sheet with one cell, which fails. -/
def dividing : Sheet where
  grid := [[some "=1/0"]]
  settings := ⟨5, 10, false, false, 1⟩
  surroundings := .still

/-
  Where a failing cell is recalculated a second time, it fails
  and is reported again, but the number that is given is zero.
-/
theorem displayGrid_counts_no_failure_again :
    let session :=
      ((dividing.displayGrid (.whole 0)).run .start).2
    ∃ failed : Failed,
      ((dividing.displayGrid (.whole 0)).run
          session).2.events =
        session.events ++
          [startedEvent 1 1, failed.event dividing.grid,
            completedEvent 1 1 0 (.whole 0)] := by
  intro session
  have hFailures :
      (dividing.failuresAt (dividing.askedBy session
        (.displayGrid (.whole 0)))).length = 1 := by
    decide +kernel
  have hNew :
      (newFailures session.errors
        (dividing.failuresAt (dividing.askedBy session
          (.displayGrid (.whole 0))))).length = 0 := by
    decide +kernel
  rcases List.length_eq_one_iff.mp hFailures with
    ⟨failed, hFailed⟩
  have hReports :=
    (dividing.displayGrid_reports (.whole 0) session).2
  rw [hNew, hFailed] at hReports
  exact ⟨failed, hReports⟩

end Sheet

end Spreadsheet
