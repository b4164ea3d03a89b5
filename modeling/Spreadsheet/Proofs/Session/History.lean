import Spreadsheet.Proofs.Session.Request
import Spreadsheet.Proofs.Sheet.Reach

/-
  What a session remembers.

  Between two requests no cell is busy, whatever the session
  was asked for before and however the grid was changed in the
  meantime.  Where values are not kept, the number of random
  numbers drawn and of times the clock was read is all that an
  evaluation leaves behind, so that a request is answered as
  if it were the first one.

  Key definitions include:
    * `Spreadsheet.Session.Step`
    * `Spreadsheet.Sheet.proceed`
    * `Spreadsheet.Sheet.renewed`

  Main results:
    * `Spreadsheet.Sheet.respond_preserves`
    * `Spreadsheet.Sheet.respond_renewed`
    * `Spreadsheet.Sheet.outcome_attempt`
    * `Spreadsheet.Sheet.guard_restored_and_history_invisible`
-/

------------------------------------------------------------
-- What Evaluations Leave Behind
------------------------------------------------------------

namespace Spreadsheet

namespace Progress

/-
  Progress with the same guard and the same known values
  differs only in how often the surroundings were asked.
-/
theorem eq_of_sameKnown
    {before after : Progress}
    (hGuard : SameGuard before after)
    (hKnown : SameKnown before after) :
    after =
      {
        before with
        drawn := after.drawn
        looked := after.looked
      } := by
  rcases hGuard with ⟨hPath, hBusy⟩
  cases before
  cases after
  simp_all [SameKnown]

end Progress

namespace Sheet

variable {sheet : Sheet}

/-
  An attempt that fails leaves no trace but in how often the
  surroundings were asked: the fallback is evaluated as if it
  stood alone.
-/
theorem outcome_attempt
    (hMemoize : sheet.settings.memoize = false)
    {name : String}
    (hName :
      Function.named? (Expr.upperName name) = some .ifError)
    {tried fallback : Expr}
    {before after : Progress}
    {failure : Failure}
    (hTried : (sheet.resolve tried.value).outcome before =
      (.error failure, after))
    (hCaught : failure.isCaught = true) :
    (sheet.resolve
        (Expr.call name [tried, fallback]).value).outcome
          before =
      (sheet.resolve fallback.value).outcome
        {
          before with
          drawn := after.drawn
          looked := after.looked
        } := by
  have hGuard :=
    sheet.resolve_keeps sameGuard_isKept
      sheet.evaluateCell_keeps_guard tried.value before
  have hKnown :=
    sheet.resolve_keeps sameKnown_isKept
      (sheet.evaluateCell_keeps_known hMemoize) tried.value before
  rw [hTried] at hGuard hKnown
  rw [← Progress.eq_of_sameKnown hGuard hKnown,
    Expr.value_ifError hName, Inquiry.orElse, resolve,
    Inquiry.outcome_andThen]
  unfold resolve at hTried
  rw [hTried]
  simp only [Inquiry.rescue, hCaught, if_true]
  rfl

end Sheet

end Spreadsheet

------------------------------------------------------------
-- What Requests Preserve
------------------------------------------------------------

namespace Spreadsheet

namespace Sheet

open Session (Request)

variable {sheet : Sheet}

/-
  What looks at the clock and the evaluations that a request
  asks for preserve is still there after the request.
-/
theorem respond_preserves
    (holds : Progress → Prop)
    (hLook : ∀ p, holds p → holds p.afterLook)
    {request : Request}
    {session : Session}
    (hAnswers : ∀ visit ∈ sheet.askedBy session request,
      holds visit.progress →
        holds ((sheet.evaluateCell visit.cell).outcome
          visit.progress).2)
    (hInvalidate : ∀ session : Session,
      holds session.progress →
        holds session.invalidate.progress)
    (hSession : holds session.progress) :
    holds
      ((sheet.respond request).run session).2.progress := by
  -- A sheet agrees with itself where both runs are one run
  -- from a progress of which the property holds.
  have hAlike :
      Session.Alike (fun p q => p = q ∧ holds p) True
        ((sheet.respond request).run session)
        ((sheet.respond request).run session) := by
    refine respond_agree sheet sheet rfl rfl ?_ ?_ request
      ⟨⟨rfl, hSession⟩, fun _ => rfl⟩ ?_
    · constructor
      · intro hRandom
        exact hRandom.elim
      · rintro p q ⟨rfl, hHolds⟩
        exact ⟨rfl, rfl, hLook p hHolds⟩
      · rfl
    · rintro s t ⟨hSame, hHolds⟩
      refine ⟨?_, hInvalidate s hHolds⟩
      simp only [Session.invalidate, hSame]
    · rintro visit hVisit q ⟨rfl, hHolds⟩
      exact ⟨rfl, rfl, hAnswers visit hVisit hHolds⟩
  exact hAlike.2.progress.2

/- After a request nothing is in progress. -/
theorem idle_respond
    (request : Request)
    {session : Session}
    (hIdle : session.progress.Idle) :
    ((sheet.respond request).run
      session).2.progress.Idle := by
  refine respond_preserves Progress.Idle ?_ ?_ ?_ hIdle
  · intro p hIdle
    exact ⟨hIdle.path_eq, hIdle.busy_eq⟩
  · intro visit hVisit hIdle
    exact hIdle.of_sameGuard
      (sheet.evaluateCell_keeps_guard visit.cell _)
  · intro session hIdle
    exact ⟨rfl, rfl⟩

/- Where values are not kept, none is known after a request. -/
theorem known_respond
    (hMemoize : sheet.settings.memoize = false)
    (request : Request)
    {session : Session}
    (hKnown : session.progress.known = ∅) :
    ((sheet.respond request).run
      session).2.progress.known = ∅ := by
  refine respond_preserves (fun p => p.known = ∅) ?_ ?_ ?_
    hKnown
  · intro p hKnown
    exact hKnown
  · intro visit hVisit hKnown
    have hSame : SameKnown visit.progress _ :=
      sheet.evaluateCell_keeps_known hMemoize visit.cell _
    exact hSame.trans hKnown
  · intro session hKnown
    rfl

end Sheet

end Spreadsheet

------------------------------------------------------------
-- Requests And Edits
------------------------------------------------------------

namespace Spreadsheet

namespace Session

/- A request, or an edit after which the grid is another one. -/
inductive Step where
  | request (request : Request)
  | edit (grid : Grid)

end Session

namespace Sheet

open Session (Request Step)

/- The sheet and the session after some steps. -/
def proceed
    (sheet : Sheet)
    (session : Session) :
    List Step → Sheet × Session
  | [] => (sheet, session)
  | .request request :: rest =>
      sheet.proceed ((sheet.respond request).run session).2
        rest
  | .edit grid :: rest =>
      { sheet with grid }.proceed session rest

/-
  The sheet as it were new at some progress: its first random
  number is the next one, and its clock goes on.
-/
def renewed
    (sheet : Sheet)
    (progress : Progress) :
    Sheet :=
  {
    sheet with
    surroundings :=
      sheet.surroundings.advanced progress.drawn
        progress.looked
  }

variable {sheet : Sheet}
variable {session : Session}

/- No step changes the settings. -/
theorem settings_proceed
    (steps : List Step) :
    (sheet.proceed session steps).1.settings =
      sheet.settings := by
  induction steps generalizing sheet session with
  | nil => rfl
  | cons step rest ih =>
      cases step with
      | request request => exact ih
      | edit grid => exact ih

/- After any steps nothing is in progress. -/
theorem idle_proceed
    (steps : List Step)
    (hIdle : session.progress.Idle) :
    (sheet.proceed session steps).2.progress.Idle := by
  induction steps generalizing sheet session with
  | nil => exact hIdle
  | cons step rest ih =>
      cases step with
      | request request => exact ih (idle_respond request hIdle)
      | edit grid => exact ih hIdle

/- Where values are not kept, none is known after any steps. -/
theorem known_proceed
    (hMemoize : sheet.settings.memoize = false)
    (steps : List Step)
    (hKnown : session.progress.known = ∅) :
    (sheet.proceed session steps).2.progress.known = ∅ := by
  induction steps generalizing sheet session with
  | nil => exact hKnown
  | cons step rest ih =>
      cases step with
      | request request =>
          exact ih hMemoize
            (known_respond hMemoize request hKnown)
      | edit grid => exact ih hMemoize hKnown

/-
  A request in a session without known values and busy cells
  is answered as it is in a new one.
-/
theorem respond_renewed
    (request : Request)
    (hIdle : session.progress.Idle)
    (hKnown : session.progress.known = ∅) :
    ((sheet.respond request).run session).1 =
      (((sheet.renewed session.progress).respond
        request).run .start).1 := by
  have hSessions :
      session.Agree
        (Progress.Shifted session.progress.drawn
          session.progress.looked)
        False .start :=
    ⟨⟨hKnown, hIdle.busy_eq, hIdle.path_eq, rfl, rfl⟩,
      False.elim⟩
  have hAlike :
      Session.Alike
        (Progress.Shifted session.progress.drawn
          session.progress.looked)
        False
        ((sheet.respond request).run session)
        (((sheet.renewed session.progress).respond
          request).run .start) := by
    refine respond_agree sheet
      (sheet.renewed session.progress) rfl rfl
      (sheet.surroundings.agree_advanced _ _ False) ?_
      request hSessions ?_
    · intro s t hSame
      exact ⟨rfl, rfl, rfl, hSame.drawn_eq, hSame.looked_eq⟩
    · intro visit hVisit q hSame
      exact evaluateCell_agree sheet
        (sheet.renewed session.progress) (fun _ => True) rfl
        (sheet.surroundings.agree_advanced _ _ True)
        (fun _ _ _ => trivial) (fun _ _ _ _ => trivial)
        (fun _ _ => rfl) trivial hSame
  exact hAlike.1

end Sheet

end Spreadsheet

------------------------------------------------------------
-- History
------------------------------------------------------------

namespace Spreadsheet

namespace Sheet

open Session (Request Step)

/-
  After any requests and edits nothing is in progress.  Every
  evaluation that a further request makes, directly or on the
  way, is guarded at each of its states, and every evaluation
  leaves the guard as it was.  Where values are not kept, a
  further request is answered as by a new sheet, and the
  fallback of an attempt that fails is evaluated as if the
  attempt had not been made.
-/
theorem guard_restored_and_history_invisible
    (sheet : Sheet)
    (steps : List Step) :
    let now := (sheet.proceed .start steps).1
    let session := (sheet.proceed .start steps).2
    session.progress.Idle ∧
    (∀ request, ∀ asked ∈ now.askedBy session request,
      ∀ visit ∈ now.visits asked,
      ∀ moment ∈ now.moments visit,
        moment.Guarded now.settings.maxDepth) ∧
    (∀ cell, (now.evaluateCell cell).Keeps SameGuard) ∧
    (sheet.settings.memoize = false →
      (∀ request,
        ((now.respond request).run session).1 =
          (((now.renewed session.progress).respond
            request).run .start).1) ∧
      ∀ name tried fallback before failure after,
        Function.named? (Expr.upperName name) =
          some .ifError →
        (now.resolve tried.value).outcome before =
          (.error failure, after) →
        failure.isCaught = true →
          (now.resolve
              (Expr.call name [tried, fallback]).value).outcome
                before =
            (now.resolve fallback.value).outcome
              {
                before with
                drawn := after.drawn
                looked := after.looked
              }) := by
  intro now session
  have hIdle : session.progress.Idle :=
    idle_proceed steps ⟨rfl, rfl⟩
  refine ⟨hIdle, ?_, now.evaluateCell_keeps_guard, ?_⟩
  · intro request asked hAsked visit hVisit moment hMoment
    have hSame :=
      askedBy_keeps sameGuard_isKept
        now.evaluateCell_keeps_guard hAsked
    have hGuarded :
        asked.progress.Guarded now.settings.maxDepth :=
      (hIdle.of_sameGuard hSame).guarded _
    exact guarded_of_mem_moments
      (guarded_of_mem_visits hGuarded hVisit) hMoment
  · intro hMemoize
    have hNever : now.settings.memoize = false := by
      rw [settings_proceed]
      exact hMemoize
    have hKnown : session.progress.known = ∅ :=
      known_proceed hMemoize steps rfl
    refine ⟨fun request =>
      respond_renewed request hIdle hKnown, ?_⟩
    intro name tried fallback before failure after hName
      hTried hCaught
    exact outcome_attempt hNever hName hTried hCaught

/-
  A sheet whose first cell tries a function that does not
  exist and falls back on a cell that refers to the first.
-/
def fallingBack : Sheet where
  grid := [[some "=IFERROR(NO(),B1)", some "=A1"]]
  settings := ⟨5, 10, false, false, 1⟩
  surroundings := .still

/-
  The circle is forgotten when an edit has opened it, and so
  is the attempt when the fallback is evaluated.
-/
theorem history_invisible_fallingBack :
    let steps : List Step :=
      [.request (.evaluate ⟨0, 0⟩),
        .edit [[some "=IFERROR(NO(),B1)", some "7"]]]
    let now := (fallingBack.proceed .start steps).1
    let session := (fallingBack.proceed .start steps).2
    fallingBack.settings.memoize = false ∧
    Function.named? (Expr.upperName "IFERROR") =
      some .ifError ∧
    ((now.respond (.display ⟨0, 0⟩)).run session).1 =
      (((now.renewed session.progress).respond
        (.display ⟨0, 0⟩)).run .start).1 ∧
    ∀ before : Progress,
      (now.resolve (Expr.call "NO" []).value).outcome
          before =
        (.error (.unknownFunction "NO"), before) ∧
      (now.resolve
          (Expr.call "IFERROR"
            [.call "NO" [], .cell "B1"]).value).outcome
              before =
        (now.resolve (Expr.cell "B1").value).outcome
          before := by
  intro steps now session
  rcases guard_restored_and_history_invisible fallingBack
    steps with ⟨-, -, -, hForgets⟩
  rcases hForgets rfl with ⟨hRenewed, hFallback⟩
  have hName :
      Function.named? (Expr.upperName "IFERROR") =
        some .ifError := by
    rfl
  have hTried :
      ∀ (sheet : Sheet) (progress : Progress),
        (sheet.resolve (Expr.call "NO" []).value).outcome
            progress =
          (.error (.unknownFunction "NO"), progress) := by
    intro sheet progress
    rfl
  refine ⟨rfl, hName, hRenewed _, ?_⟩
  intro before
  exact ⟨hTried now before,
    hFallback "IFERROR" _ (.cell "B1") before _ before hName
      (hTried now before) rfl⟩

end Sheet

end Spreadsheet
