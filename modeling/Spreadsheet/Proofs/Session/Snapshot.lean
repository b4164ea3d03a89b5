import Spreadsheet.Proofs.Session.History
import Spreadsheet.Proofs.Session.Recalculation
import Spreadsheet.Proofs.Sheet.Gained

/-
  A session is a snapshot.

  All evaluations that a session asks for are made one behind
  the other, and none of them loses a value.  So where values
  are kept and nothing is forgotten, a cell has one value in
  the whole session, whatever random numbers are drawn and
  whatever the clock shows: the one that is known at its end.

  Key definitions include:
    * `Spreadsheet.Sheet.askedIn`
    * `Spreadsheet.Sheet.endOf`

  Main results:
    * `Spreadsheet.Sheet.chained_askedIn`
    * `Spreadsheet.Sheet.known_endOf`
    * `Spreadsheet.Sheet.session_is_snapshot`
-/

------------------------------------------------------------
-- Evaluations One Behind The Other
------------------------------------------------------------

namespace Spreadsheet

namespace Sheet

open Session (Request)

variable {sheet : Sheet}

/- Cells are evaluated one behind the other to be shown. -/
theorem chained_shownVisits
    (sheet : Sheet)
    (cells : List Cell)
    (session : Session) :
    Chained Progress.Gains sheet.evaluateCell
      (sheet.shownVisits cells session) session.progress
      ((cells.mapM sheet.displayCell).run
        session).2.progress := by
  induction cells generalizing session with
  | nil => exact Progress.gains_isKept.refl _
  | cons cell rest ih =>
      have hRest := ih ((sheet.displayCell cell).run session).2
      rw [run_mapM_cons, shownVisits]
      cases hFormula : isFormula (sheet.grid.read cell) with
      | false =>
          rw [sheet.run_displayCell_of_text hFormula]
            at hRest ⊢
          exact hRest
      | true =>
          rw [sheet.run_displayCell_of_formula hFormula]
            at hRest ⊢
          simp only [shown_progress] at hRest
          exact ⟨Progress.gains_isKept.refl _, hRest⟩

/- So are the cells that a request asks for. -/
theorem chained_askedBy
    {request : Request}
    (hForget : request ≠ .invalidate)
    (session : Session) :
    Chained Progress.Gains sheet.evaluateCell
      (sheet.askedBy session request) session.progress
      ((sheet.respond request).run session).2.progress := by
  cases request with
  | evaluate cell =>
      exact ⟨Progress.gains_isKept.refl _,
        Progress.gains_isKept.refl _⟩
  | resolveCell label =>
      exact .questions Progress.gains_isKept
        sheet.surroundings (.ofLabel label) _
  | resolveRange text =>
      exact .questions Progress.gains_isKept
        sheet.surroundings (.ofArea text) _
  | display cell =>
      exact sheet.chained_shownVisits [cell] session
  | displayGrid duration =>
      have hShown :=
        sheet.chained_shownVisits sheet.grid.places.flatten
          (session.report (startedEvent sheet.grid.length
            sheet.grid.columns))
      rw [← run_mapM_rows] at hShown
      have hEnd :=
        congrArg Prod.snd
          (sheet.run_displayGrid duration session)
      change Chained _ _ _ _
        ((sheet.displayGrid duration).run session).2.progress
      rw [hEnd]
      exact hShown
  | invalidate => exact absurd rfl hForget

/- The evaluations that requests ask for, in order. -/
def askedIn
    (sheet : Sheet) :
    List Request → Session → List Visit
  | [], _ => []
  | request :: rest, session =>
      sheet.askedBy session request ++
        sheet.askedIn rest
          ((sheet.respond request).run session).2

/- The session behind some requests. -/
def endOf
    (sheet : Sheet)
    (requests : List Request)
    (session : Session) :
    Session :=
  (sheet.proceed session (requests.map .request)).2

theorem visitsOf_eq_flatMap
    (sheet : Sheet)
    (requests : List Request)
    (session : Session) :
    sheet.visitsOf requests session =
      (sheet.askedIn requests session).flatMap
        sheet.visits := by
  induction requests generalizing session with
  | nil => rfl
  | cons request rest ih =>
      rw [visitsOf, askedIn, List.flatMap_append, ih]

/-
  Where nothing is forgotten, all that a session asks for is
  evaluated one behind the other.
-/
theorem chained_askedIn
    {requests : List Request}
    (hForget : Request.invalidate ∉ requests)
    (session : Session) :
    Chained Progress.Gains sheet.evaluateCell
      (sheet.askedIn requests session) session.progress
      (sheet.endOf requests session).progress := by
  induction requests generalizing session with
  | nil => exact Progress.gains_isKept.refl _
  | cons request rest ih =>
      rw [List.mem_cons, not_or] at hForget
      exact (chained_askedBy (Ne.symm hForget.1)
        session).append Progress.gains_isKept
          (ih hForget.2 _)

end Sheet

end Spreadsheet

------------------------------------------------------------
-- One Value For Each Cell
------------------------------------------------------------

namespace Spreadsheet

namespace Sheet

open Session (Request)

variable {sheet : Sheet}

/- What a visit of a session leaves known is known at the end. -/
theorem leftBy_retains_endOf
    {requests : List Request}
    (hForget : Request.invalidate ∉ requests)
    {session : Session}
    {visit : Visit}
    (hVisit : visit ∈ sheet.visitsOf requests session) :
    (sheet.leftBy visit).Retains
      (sheet.endOf requests session).progress := by
  rw [visitsOf_eq_flatMap, List.mem_flatMap] at hVisit
  rcases hVisit with ⟨asked, hAsked, hVisit⟩
  exact (leftBy_retains_of_mem_visits hVisit).trans
    ((chained_askedIn hForget session).after
      Progress.gains_isKept sheet.evaluateCell_gains
        hAsked).retains

/-
  Where values are kept and nothing is forgotten, the value of
  each visit is known at the end of the session.
-/
theorem known_endOf
    (hMemoize : sheet.settings.memoize = true)
    {requests : List Request}
    (hForget : Request.invalidate ∉ requests)
    {session : Session}
    {visit : Visit}
    (hVisit : visit ∈ sheet.visitsOf requests session)
    {value : Value}
    (hValue : sheet.result visit = .ok value) :
    (sheet.endOf requests session).progress.known[
      visit.cell]? = some value :=
  leftBy_retains_endOf hForget hVisit _ _
    (known_leftBy hMemoize hValue)

/-
  Where values are kept and nothing is forgotten, any two
  visits of one cell that come to values come to the same, in
  whatever way the cell was asked for.  The values that are
  known are only added to, from each visit to its own end and
  to all later visits, up to the end of the session.
-/
theorem session_is_snapshot
    (sheet : Sheet)
    (hMemoize : sheet.settings.memoize = true)
    (requests : List Request)
    (hForget : Request.invalidate ∉ requests)
    (session : Session) :
    let visits := sheet.visitsOf requests session
    let after := (sheet.endOf requests session).progress
    (∀ first ∈ visits, ∀ second ∈ visits,
      first.cell = second.cell →
      ∀ value other,
        sheet.result first = .ok value →
        sheet.result second = .ok other →
          value = other) ∧
    (visits.Pairwise fun first second =>
      first.progress.Retains second.progress) ∧
    (∀ visit ∈ visits,
      visit.progress.Retains (sheet.leftBy visit) ∧
        (sheet.leftBy visit).Retains after) ∧
    session.progress.Retains after := by
  intro visits after
  have hChained :
      Chained Progress.Gains sheet.evaluateCell
        (sheet.askedIn requests session) session.progress
        after :=
    chained_askedIn hForget session
  refine ⟨?_, ?_, ?_, ?_⟩
  · intro first hFirst second hSecond hSame value other
      hValue hOther
    have hKnown := known_endOf hMemoize hForget hFirst hValue
    rw [hSame, known_endOf hMemoize hForget hSecond hOther]
      at hKnown
    exact (Option.some.inj hKnown).symm
  · have hVisits :
        visits =
          (sheet.askedIn requests session).flatMap
            sheet.visits :=
      sheet.visitsOf_eq_flatMap requests session
    rw [hVisits]
    exact retain_of_chained hChained
      fun visit _ => sheet.visits_retain visit
  · exact fun visit hVisit =>
      ⟨retains_leftBy visit,
        leftBy_retains_endOf hForget hVisit⟩
  · exact (hChained.ends Progress.gains_isKept
      sheet.evaluateCell_gains).retains

/-
  A sheet that keeps values.  Its first cell is random, its
  second one fails with the first, catches that and takes the
  first again, and its third one adds both up.
-/
def drawingOnce : Sheet where
  grid :=
    [[some "=RAND()", some "=IFERROR(A1+NO(),A1)",
      some "=SUM(A1:B1)"]]
  settings := ⟨5, 10, true, false, 1⟩
  surroundings :=
    {
      Surroundings.still with
      random := fun index => if index = 0 then 0.25 else 0.5
    }

/-
  The random number is drawn once, so that the first cell has
  the same value in the area, in the attempt, in the fallback
  and on its own.
-/
theorem snapshot_drawingOnce :
    let requests : List Request :=
      [.evaluate ⟨0, 2⟩, .evaluate ⟨0, 0⟩]
    drawingOnce.settings.memoize = true ∧
    Request.invalidate ∉ requests ∧
    ∀ visit ∈ drawingOnce.visitsOf requests .start,
      visit.cell = ⟨0, 0⟩ →
      ∀ value, drawingOnce.result visit = .ok value →
        value = .number 0.25 := by
  intro requests
  have hForget : Request.invalidate ∉ requests := by
    simp [requests]
  let session :=
    ((drawingOnce.respond (.evaluate ⟨0, 2⟩)).run .start).2
  let last : Visit := ⟨⟨0, 0⟩, session.progress⟩
  have hLast : last ∈ drawingOnce.visitsOf requests .start :=
    visitsOf_subset_visitsOf drawingOnce _ _ _
      (visits_subset_visitsOf List.mem_cons_self []
        (mem_visits_self last))
  have hQuarter :
      drawingOnce.result last = .ok (.number 0.25) := by
    decide +kernel
  refine ⟨rfl, hForget, ?_⟩
  intro visit hVisit hCell value hValue
  exact (session_is_snapshot drawingOnce rfl requests hForget
    .start).1 visit hVisit last hLast hCell value _ hValue
      hQuarter

end Sheet

end Spreadsheet
