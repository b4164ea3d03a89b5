import Spreadsheet.Proofs.Session.Kept

/-
  Sessions with room for all formulas.

  A path of cells in progress has each cell once, and all of
  them but the last have a formula.  So no path is longer than
  there are formulas, by more than one cell.  A sheet that has
  this much room never gives up a cell for want of it, not
  even where a formula would have caught the failure, however
  the formulas refer to each other or to cells that the grid
  does not have.

  Key definitions include:
    * `Spreadsheet.Session.Response.failure?`

  Main results:
    * `Spreadsheet.Sheet.exists_asked_of_stop`
    * `Spreadsheet.Sheet.length_moment_le`
    * `Spreadsheet.Sheet.path_bounded_by_formulas`
-/

------------------------------------------------------------
-- Failures That Reach The Caller
------------------------------------------------------------

namespace Spreadsheet

namespace Session

namespace Response

/- The failure that a request comes to, if it comes to one. -/
def failure? :
    Response → Option Failure
  | value (.error failure) => some failure
  | values (.error failure) => some failure
  | _ => none

theorem failure?_value_iff
    (result : Except Failure Value)
    (failure : Failure) :
    (value result).failure? = some failure ↔
      result = .error failure := by
  cases result with
  | ok found => simp [failure?]
  | error other => simp [failure?]

theorem failure?_values_iff
    (result : Except Failure (List Value))
    (failure : Failure) :
    (values result).failure? = some failure ↔
      result = .error failure := by
  cases result with
  | ok found => simp [failure?]
  | error other => simp [failure?]

end Response

end Session

namespace Sheet

open Session (Request Response)

variable {sheet : Sheet}
variable {session : Session}
variable {failure : Failure}

/- The question about a cell stops only if its answer does. -/
theorem ofCell_echoes
    (cell : Cell) :
    (Inquiry.ofCell cell).Echoes failure :=
  .asking fun _ hAnswer => .settled hAnswer

/-
  A request stops only if an evaluation does that it asks for.
-/
theorem exists_asked_of_stop
    (hStop : failure.isStop = true)
    {request : Request}
    (hResponse :
      ((sheet.respond request).run session).1.failure? =
        some failure) :
    ∃ asked ∈ sheet.askedBy session request,
      sheet.result asked = .error failure := by
  cases request with
  | evaluate cell =>
      rw [respond_evaluate,
        Response.failure?_value_iff] at hResponse
      exact ⟨_, List.mem_cons_self, hResponse⟩
  | resolveCell label =>
      have hEchoes :
          (Inquiry.ofLabel label).Echoes failure :=
        (Inquiry.binds_echoes hStop).ofLabel
          fun cell _ => ofCell_echoes cell
      exact Inquiry.exists_question_of_echoes hEchoes
        ((Response.failure?_value_iff _ _).mp hResponse)
  | resolveRange text =>
      have hEchoes : (Inquiry.ofArea text).Echoes failure :=
        (Inquiry.binds_echoes hStop).ofArea
          fun _ _ cell _ => ofCell_echoes cell
      exact Inquiry.exists_question_of_echoes hEchoes
        ((Response.failure?_values_iff _ _).mp hResponse)
  | display cell => cases hResponse
  | displayGrid duration => cases hResponse
  | invalidate => cases hResponse

end Sheet

end Spreadsheet

------------------------------------------------------------
-- Paths That Are Bounded By The Formulas
------------------------------------------------------------

namespace Spreadsheet

namespace Sheet

open Session (Request)

variable {sheet : Sheet}

/-
  During the evaluation of a cell the path is that of its
  visit, or it has the cell in addition.
-/
theorem length_moment_le
    {visit : Visit}
    {moment : Progress}
    (hMoment : moment ∈ sheet.moments visit) :
    moment.path.length ≤ visit.progress.path.length + 1 := by
  unfold moments at hMoment
  split at hMoment
  · rw [List.mem_append, List.mem_cons,
      List.mem_singleton] at hMoment
    rcases hMoment with (rfl | hState) | rfl
    · exact Nat.le_succ _
    · have hSame :
          SameGuard (visit.progress.enter visit.cell) moment :=
        Inquiry.states_keep sameGuard_isKept
          sheet.evaluateCell_keeps_guard hState
      rw [hSame.path_eq]
      exact Nat.le_refl _
    · have hSame :=
        sheet.evaluateCell_keeps_guard visit.cell
          visit.progress
      rw [hSame.path_eq]
      exact Nat.le_succ _
  · rw [List.mem_singleton] at hMoment
    rw [hMoment]
    exact Nat.le_succ _

/-
  In a sheet with room for more cells than there are formulas,
  no request comes to a failure for want of room.
-/
theorem failure_ne_tooDeep_of_room
    (hRoom : sheet.grid.formulaCells.length <
      sheet.settings.maxDepth)
    {requests : List Request}
    {session : Session}
    (hIdle : session.progress.Idle)
    {entry : Session.Response × ErrorTable}
    (hEntry : entry ∈ sheet.transcript requests session)
    (limit : Nat) :
    entry.1.failure? ≠ some (.tooDeep limit) := by
  induction requests generalizing session with
  | nil => simp [transcript] at hEntry
  | cons request rest ih =>
      rw [transcript_cons, List.mem_cons] at hEntry
      rcases hEntry with rfl | hEntry
      · intro hDeep
        rcases exists_asked_of_stop rfl hDeep with
          ⟨asked, hAsked, hResult⟩
        have hVisit :
            asked ∈ sheet.visitsOf (request :: rest) session :=
          visits_subset_visitsOf hAsked rest
            (mem_visits_self asked)
        exact calm_visitsOf_of_room hRoom hIdle _ asked hVisit
          limit hResult
      · exact ih (idle_respond request hIdle) hEntry

/-
  Let there be room for more cells than the grid has formulas.
  Whatever a session asks for, no request and no evaluation on
  the way, also inside an attempt, fails for want of room, and
  the path is never longer than the formulas are many, by more
  than one cell.
-/
theorem path_bounded_by_formulas
    (sheet : Sheet)
    (hRoom : sheet.grid.formulaCells.length + 1 ≤
      sheet.settings.maxDepth)
    (requests : List Request) :
    (∀ entry ∈ sheet.transcript requests .start, ∀ limit,
      entry.1.failure? ≠ some (.tooDeep limit)) ∧
    ∀ visit ∈ sheet.visitsOf requests .start,
      (∀ limit,
        sheet.result visit ≠ .error (.tooDeep limit)) ∧
      ∀ moment ∈ sheet.moments visit,
        moment.path.length ≤
          sheet.grid.formulaCells.length + 1 := by
  have hIdle : Session.start.progress.Idle := ⟨rfl, rfl⟩
  refine ⟨fun entry hEntry =>
    failure_ne_tooDeep_of_room hRoom hIdle hEntry, ?_⟩
  intro visit hVisit
  refine ⟨calm_visitsOf_of_room hRoom hIdle requests visit
    hVisit, ?_⟩
  intro moment hMoment
  rcases exists_idle_of_mem_visitsOf hIdle hVisit with
    ⟨asked, hAsked, hOnWay, -⟩
  calc
    moment.path.length ≤ visit.progress.path.length + 1 :=
      length_moment_le hMoment
    _ ≤ sheet.grid.formulaCells.length + 1 :=
      Nat.succ_le_succ (length_path_le hAsked hOnWay)

/-
  A sheet that keeps values, with a circle of two formulas and
  a reference to a cell that the grid does not have.  There is
  room for one more cell than formulas.
-/
def looping : Sheet where
  grid := [[some "=IFERROR(B1,C9)", some "=C9&A1"]]
  settings := ⟨3, 10, true, false, 1⟩
  surroundings := .still

/-
  The path comes to hold both formulas and the cell beyond the
  grid, which is all that there is room for.
-/
theorem path_bounded_in_looping :
    let requests : List Request :=
      [.evaluate ⟨0, 0⟩, .displayGrid (.whole 0),
        .resolveRange "A1:C9"]
    looping.grid.formulaCells.length + 1 ≤
      looping.settings.maxDepth ∧
    (∃ visit ∈ looping.visitsOf requests .start,
      ∃ moment ∈ looping.moments visit,
        moment.path.length =
          looping.grid.formulaCells.length + 1) ∧
    ∀ visit ∈ looping.visitsOf requests .start,
      (∀ limit,
        looping.result visit ≠ .error (.tooDeep limit)) ∧
      ∀ moment ∈ looping.moments visit,
        moment.path.length ≤
          looping.grid.formulaCells.length + 1 := by
  intro requests
  have hRoom :
      looping.grid.formulaCells.length + 1 ≤
        looping.settings.maxDepth := by
    decide +kernel
  refine ⟨hRoom, by decide +kernel, ?_⟩
  exact (path_bounded_by_formulas looping hRoom requests).2

end Sheet

end Spreadsheet
