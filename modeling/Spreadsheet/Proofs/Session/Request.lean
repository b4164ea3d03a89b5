import Spreadsheet.Proofs.Grid.Cells
import Spreadsheet.Proofs.Sheet.Guard
import Spreadsheet.Session

/-
  Requests in a session.

  A session with a sheet is a sequence of requests.  Each of
  them asks for some evaluations, one after the other, and the
  response comes from their results.  Two sheets over one grid
  respond alike as long as these evaluations agree.

  Key definitions include:
    * `Spreadsheet.Session.Request`
    * `Spreadsheet.Session.Response`
    * `Spreadsheet.Sheet.respond`
    * `Spreadsheet.Sheet.askedBy`
    * `Spreadsheet.Sheet.transcript`
    * `Spreadsheet.Sheet.visitsOf`

  Main results:
    * `Spreadsheet.Sheet.mem_visitsOf_cons_iff`
    * `Spreadsheet.Sheet.askedBy_preserves`
    * `Spreadsheet.Sheet.respond_agree`
    * `Spreadsheet.Sheet.askedBy_agree`
-/

------------------------------------------------------------
-- Requests
------------------------------------------------------------

namespace Spreadsheet

namespace Session

/-
  What a sheet can be asked for: the value of a cell, of a
  label or of an area, what a cell or all cells show, or to
  forget what was found.
-/
inductive Request where
  | evaluate (cell : Cell)
  | resolveCell (label : String)
  | resolveRange (text : String)
  | display (cell : Cell)
  | displayGrid (duration : Document)
  | invalidate

/- What a request comes to. -/
inductive Response where
  | value (result : Except Failure Value)
  | values (result : Except Failure (List Value))
  | text (shown : String)
  | texts (shown : List (List String))
  | done

end Session

namespace Sheet

open Session (Request Response)

/- Respond to a request. -/
def respond
    (sheet : Sheet) :
    Request → StateM Session Response
  | .evaluate cell =>
      .value <$> perform (sheet.evaluateCell cell)
  | .resolveCell label =>
      .value <$> perform (sheet.resolveCell label)
  | .resolveRange text =>
      .values <$> perform (sheet.resolveRange text)
  | .display cell => .text <$> sheet.displayCell cell
  | .displayGrid duration =>
      .texts <$> sheet.displayGrid duration
  | .invalidate => do
      modify Session.invalidate
      return .done

/- The responses to requests and the tables behind them. -/
def transcript
    (sheet : Sheet) :
    List Request → Session → List (Response × ErrorTable)
  | [], _ => []
  | request :: rest, session =>
      let (response, after) :=
        (sheet.respond request).run session
      (response, after.errors) ::
        sheet.transcript rest after

theorem transcript_cons
    (sheet : Sheet)
    (request : Request)
    (rest : List Request)
    (session : Session) :
    sheet.transcript (request :: rest) session =
      (((sheet.respond request).run session).1,
          ((sheet.respond request).run session).2.errors) ::
        sheet.transcript rest
          ((sheet.respond request).run session).2 :=
  rfl

end Sheet

end Spreadsheet

------------------------------------------------------------
-- Evaluations That Are Asked For
------------------------------------------------------------

namespace Spreadsheet

namespace Sheet

open Session (Request Response)

/- The evaluations that showing some cells asks for. -/
def shownVisits
    (sheet : Sheet) :
    List Cell → Session → List Visit
  | [], _ => []
  | cell :: rest, session =>
      let after := ((sheet.displayCell cell).run session).2
      if isFormula (sheet.grid.read cell) then
        ⟨cell, session.progress⟩ ::
          sheet.shownVisits rest after
      else
        sheet.shownVisits rest after

/- The evaluations that a request asks for. -/
def askedBy
    (sheet : Sheet)
    (session : Session) :
    Request → List Visit
  | .evaluate cell => [⟨cell, session.progress⟩]
  | .resolveCell label =>
      (Inquiry.ofLabel label).questions sheet.surroundings
        sheet.evaluateCell session.progress
  | .resolveRange text =>
      (Inquiry.ofArea text).questions sheet.surroundings
        sheet.evaluateCell session.progress
  | .display cell => sheet.shownVisits [cell] session
  | .displayGrid _ =>
      sheet.shownVisits sheet.grid.places.flatten
        (session.report (startedEvent sheet.grid.length
          sheet.grid.columns))
  | .invalidate => []

/- All visits that are made for requests. -/
def visitsOf
    (sheet : Sheet) :
    List Request → Session → List Visit
  | [], _ => []
  | request :: rest, session =>
      (sheet.askedBy session request).flatMap sheet.visits ++
        sheet.visitsOf rest
          ((sheet.respond request).run session).2

/- The visits for the first request, and those for the rest. -/
theorem mem_visitsOf_cons_iff
    {sheet : Sheet}
    {request : Request}
    {rest : List Request}
    {session : Session}
    {visit : Visit} :
    visit ∈ sheet.visitsOf (request :: rest) session ↔
      (∃ asked ∈ sheet.askedBy session request,
        visit ∈ sheet.visits asked) ∨
      visit ∈ sheet.visitsOf rest
        ((sheet.respond request).run session).2 := by
  rw [visitsOf, List.mem_append, List.mem_flatMap]

theorem visits_subset_visitsOf
    {sheet : Sheet}
    {request : Request}
    {session : Session}
    {asked : Visit}
    (hAsked : asked ∈ sheet.askedBy session request)
    (rest : List Request) :
    sheet.visits asked ⊆
      sheet.visitsOf (request :: rest) session :=
  fun _ hVisit =>
    mem_visitsOf_cons_iff.mpr (.inl ⟨asked, hAsked, hVisit⟩)

theorem visitsOf_subset_visitsOf
    (sheet : Sheet)
    (request : Request)
    (rest : List Request)
    (session : Session) :
    sheet.visitsOf rest
        ((sheet.respond request).run session).2 ⊆
      sheet.visitsOf (request :: rest) session :=
  fun _ hVisit => mem_visitsOf_cons_iff.mpr (.inr hVisit)

end Sheet

end Spreadsheet

------------------------------------------------------------
-- Steps Of Sessions
------------------------------------------------------------

namespace Spreadsheet

namespace Sheet

variable {α : Type}

@[simp] theorem run_perform
    (run : Run α)
    (session : Session) :
    (perform run).run session =
      ((run.outcome session.progress).1,
        {
          session with
          progress := (run.outcome session.progress).2
        }) :=
  rfl

/- A raw text that is no formula is shown at once. -/
theorem run_displayCell_of_text
    (sheet : Sheet)
    {cell : Cell}
    (hText : isFormula (sheet.grid.read cell) = false)
    (session : Session) :
    (sheet.displayCell cell).run session =
      (sheet.grid.read cell, session) := by
  simp only [displayCell, hText]
  rfl

/- What a formula comes to is shown and maybe entered. -/
def shown
    (sheet : Sheet)
    (cell : Cell)
    (result : Except Failure Value)
    (session : Session) :
    String × Session :=
  match result with
  | .ok value =>
      (value.display sheet.settings.displayDecimals, session)
  | .error failure =>
      (failure.display,
        session.record cell.label (sheet.grid.read cell)
          failure)

@[simp] theorem shown_progress
    (sheet : Sheet)
    (cell : Cell)
    (result : Except Failure Value)
    (session : Session) :
    (sheet.shown cell result session).2.progress =
      session.progress := by
  cases result <;> rfl

theorem run_displayCell_of_formula
    (sheet : Sheet)
    {cell : Cell}
    (hFormula : isFormula (sheet.grid.read cell) = true)
    (session : Session) :
    (sheet.displayCell cell).run session =
      let outcome :=
        (sheet.evaluateCell cell).outcome session.progress
      sheet.shown cell outcome.1
        { session with progress := outcome.2 } := by
  simp only [displayCell, hFormula, if_true,
    StateT.run_bind, run_perform]
  rcases (sheet.evaluateCell cell).outcome
    session.progress with ⟨result, after⟩
  cases result <;> rfl

end Sheet

end Spreadsheet

------------------------------------------------------------
-- Showing Many Cells
------------------------------------------------------------

namespace Spreadsheet

namespace Sheet

variable {α β : Type}

/- What comes first is run first. -/
theorem run_mapM_cons
    (step : α → StateM Session β)
    (item : α)
    (rest : List α)
    (session : Session) :
    ((item :: rest).mapM step).run session =
      let first := (step item).run session
      let others := (rest.mapM step).run first.2
      (first.1 :: others.1, others.2) := by
  rw [List.mapM_cons]
  rfl

/- To show a row is to show its cells. -/
theorem displayRow_eq
    (sheet : Sheet)
    (cols row : Nat) :
    sheet.displayRow cols row =
      ((List.range cols).map fun col : Nat =>
        (⟨row, col⟩ : Cell)).mapM sheet.displayCell := by
  rw [List.mapM_map]
  rfl

/- All cells are shown between two reports. -/
theorem run_displayGrid
    (sheet : Sheet)
    (duration : Document)
    (session : Session) :
    (sheet.displayGrid duration).run session =
      let rows := sheet.grid.length
      let cols := sheet.grid.columns
      let begun := session.report (startedEvent rows cols)
      let ended :=
        (sheet.grid.places.mapM
          (List.mapM sheet.displayCell)).run begun
      (ended.1,
        ended.2.report
          (completedEvent rows cols
            ((ended.2.errors.length : Int) -
              begun.errors.length) duration)) := by
  have hRows :
      (List.range sheet.grid.length).mapM
          (sheet.displayRow sheet.grid.columns) =
        sheet.grid.places.mapM
          (List.mapM sheet.displayCell) := by
    rw [Grid.places, List.mapM_map]
    congr 1
    funext row
    exact sheet.displayRow_eq sheet.grid.columns row
  simp only [displayGrid]
  rw [hRows]
  rfl

/- What is shown first is asked for first. -/
theorem shownVisits_append
    (sheet : Sheet)
    (first rest : List Cell)
    (session : Session) :
    sheet.shownVisits (first ++ rest) session =
      sheet.shownVisits first session ++
        sheet.shownVisits rest
          ((first.mapM sheet.displayCell).run session).2 := by
  induction first generalizing session with
  | nil => rfl
  | cons cell others ih =>
      rw [List.cons_append, shownVisits, shownVisits,
        run_mapM_cons, ih]
      split
      · rfl
      · rfl

/- The cell that is shown first is asked for first. -/
theorem shownVisits_cons
    (sheet : Sheet)
    (cell : Cell)
    (rest : List Cell)
    (session : Session) :
    sheet.shownVisits (cell :: rest) session =
      sheet.shownVisits [cell] session ++
        sheet.shownVisits rest
          ((sheet.displayCell cell).run session).2 := by
  rw [shownVisits, shownVisits]
  split
  · rfl
  · rfl

end Sheet

end Spreadsheet

------------------------------------------------------------
-- What Requests Preserve
------------------------------------------------------------

namespace Spreadsheet

namespace Sheet

variable {holds : Progress → Prop}
variable {sheet : Sheet}
variable {session : Session}

/- A cell is shown without loss if it is evaluated so. -/
theorem displayCell_preserves
    {cell : Cell}
    (hAnswers : ∀ visit ∈ sheet.shownVisits [cell] session,
      holds visit.progress →
        holds ((sheet.evaluateCell visit.cell).outcome
          visit.progress).2)
    (hSession : holds session.progress) :
    holds
      ((sheet.displayCell cell).run session).2.progress := by
  cases hFormula : isFormula (sheet.grid.read cell) with
  | false =>
      rw [sheet.run_displayCell_of_text hFormula]
      exact hSession
  | true =>
      simp only [shownVisits, hFormula, if_true] at hAnswers
      rw [sheet.run_displayCell_of_formula hFormula]
      simp only [shown_progress]
      exact hAnswers _ List.mem_cons_self hSession

theorem shownVisits_preserve
    {cells : List Cell}
    (hAnswers : ∀ visit ∈ sheet.shownVisits cells session,
      holds visit.progress →
        holds ((sheet.evaluateCell visit.cell).outcome
          visit.progress).2)
    (hSession : holds session.progress)
    {visit : Visit}
    (hVisit : visit ∈ sheet.shownVisits cells session) :
    holds visit.progress := by
  induction cells generalizing session with
  | nil => simp [shownVisits] at hVisit
  | cons cell rest ih =>
      rw [shownVisits_cons] at hAnswers hVisit
      have hAfter :=
        displayCell_preserves
          (fun visit hVisit =>
            hAnswers visit (List.mem_append_left _ hVisit))
          hSession
      rcases List.mem_append.mp hVisit with hFirst | hRest
      · rw [shownVisits] at hFirst
        split at hFirst
        · rw [shownVisits, List.mem_singleton] at hFirst
          rwa [hFirst]
        · simp [shownVisits] at hFirst
      · refine ih ?_ hAfter hRest
        exact fun visit hVisit =>
          hAnswers visit (List.mem_append_right _ hVisit)

/-
  What each evaluation that a request asks for preserves holds
  where it is asked for.
-/
theorem askedBy_preserves
    (hPreserved : Progress.IsPreserved holds)
    {request : Session.Request}
    (hAnswers : ∀ visit ∈ sheet.askedBy session request,
      holds visit.progress →
        holds ((sheet.evaluateCell visit.cell).outcome
          visit.progress).2)
    (hSession : holds session.progress)
    {visit : Visit}
    (hVisit : visit ∈ sheet.askedBy session request) :
    holds visit.progress := by
  cases request with
  | evaluate cell =>
      rw [askedBy, List.mem_singleton] at hVisit
      rwa [hVisit]
  | resolveCell label =>
      exact Inquiry.questions_preserve hPreserved hAnswers
        hSession hVisit
  | resolveRange text =>
      exact Inquiry.questions_preserve hPreserved hAnswers
        hSession hVisit
  | display cell =>
      exact shownVisits_preserve hAnswers hSession hVisit
  | displayGrid duration =>
      -- The cells are shown after a report, which leaves the
      -- progress as it is.
      refine shownVisits_preserve hAnswers ?_ hVisit
      exact hSession
  | invalidate => simp [askedBy] at hVisit

/-
  Where a request asks for an evaluation, what evaluations
  keep is still as it was.
-/
theorem askedBy_keeps
    {related : Progress → Progress → Prop}
    (hKept : Progress.IsKept related)
    (hKeeps : ∀ cell, (sheet.evaluateCell cell).Keeps related)
    {request : Session.Request}
    {visit : Visit}
    (hVisit : visit ∈ sheet.askedBy session request) :
    related session.progress visit.progress :=
  askedBy_preserves (hKept.preserved session.progress)
    (fun visit _ hAsked =>
      hKept.trans hAsked (hKeeps visit.cell _))
    (hKept.refl session.progress) hVisit

end Sheet

end Spreadsheet

------------------------------------------------------------
-- Sessions That Agree
------------------------------------------------------------

namespace Spreadsheet

namespace Session

/-
  Two sessions have related progress and, if it matters, the
  same table of failures.
-/
structure Agree
    (related : Progress → Progress → Prop)
    (tables : Prop)
    (s t : Session) : Prop where
  progress : related s.progress t.progress
  errors : tables → s.errors = t.errors

/- Two steps have one result and leave sessions that agree. -/
def Alike
    {α : Type}
    (related : Progress → Progress → Prop)
    (tables : Prop)
    (left right : α × Session) : Prop :=
  left.1 = right.1 ∧ left.2.Agree related tables right.2

variable {α β : Type}
variable {related : Progress → Progress → Prop}
variable {tables : Prop}
variable {s t : Session}

theorem Alike.map
    {left right : StateM Session α}
    (change : α → β)
    (hAlike :
      Alike related tables (left.run s) (right.run t)) :
    Alike related tables ((change <$> left).run s)
      ((change <$> right).run t) :=
  ⟨congrArg change hAlike.1, hAlike.2⟩

/- Evaluations that agree are performed alike. -/
theorem alike_perform
    {left right : Run α}
    (hSessions : s.Agree related tables t)
    (hAgree : Spreadsheet.Agree related
      (left.outcome s.progress)
      (right.outcome t.progress)) :
    Alike related tables
      ((Sheet.perform left).run s)
      ((Sheet.perform right).run t) :=
  ⟨hAgree.1, hAgree.2, hSessions.errors⟩

/-
  Two steps that are alike for each item are alike for a list
  of items.  What each item relies on comes from the items
  that are left.
-/
theorem alike_mapM
    {left right : α → StateM Session β}
    (ready : List α → Session → Prop)
    (hStep : ∀ item rest s t,
      ready (item :: rest) s →
      s.Agree related tables t →
        Alike related tables ((left item).run s)
          ((right item).run t) ∧
        ready rest ((left item).run s).2)
    (items : List α)
    (hReady : ready items s)
    (hSessions : s.Agree related tables t) :
    Alike related tables ((items.mapM left).run s)
      ((items.mapM right).run t) := by
  induction items generalizing s t with
  | nil => exact ⟨rfl, hSessions⟩
  | cons item rest ih =>
      rcases hStep item rest s t hReady hSessions with
        ⟨⟨hFirst, hAfter⟩, hRest⟩
      rcases ih hRest hAfter with ⟨hOthers, hEnd⟩
      rw [Sheet.run_mapM_cons, Sheet.run_mapM_cons]
      refine ⟨?_, hEnd⟩
      simp only [hFirst, hOthers]

end Session

end Spreadsheet

------------------------------------------------------------
-- Sheets That Respond Alike
------------------------------------------------------------

namespace Spreadsheet

namespace Sheet

open Session (Request Alike)

/-
  Two sheets evaluate some visited cells alike from related
  progress.
-/
def AgreeAt
    (related : Progress → Progress → Prop)
    (left right : Sheet)
    (visits : List Visit) : Prop :=
  ∀ visit ∈ visits, ∀ q, related visit.progress q →
    Agree related
      ((left.evaluateCell visit.cell).outcome visit.progress)
      ((right.evaluateCell visit.cell).outcome q)

variable {related : Progress → Progress → Prop}
variable {tables : Prop}
variable {left right : Sheet}
variable {s t : Session}

/- A formula that is evaluated alike is shown alike. -/
theorem alike_displayCell
    (hGrid : left.grid = right.grid)
    (hDecimals : left.settings.displayDecimals =
      right.settings.displayDecimals)
    {cell : Cell}
    (hSessions : s.Agree related tables t)
    (hAgree :
      AgreeAt related left right (left.shownVisits [cell] s)) :
    Alike related tables ((left.displayCell cell).run s)
      ((right.displayCell cell).run t) := by
  cases hFormula : isFormula (left.grid.read cell) with
  | false =>
      have hFormula' := hFormula
      rw [hGrid] at hFormula'
      rw [left.run_displayCell_of_text hFormula,
        right.run_displayCell_of_text hFormula', hGrid]
      exact ⟨rfl, hSessions⟩
  | true =>
      have hFormula' := hFormula
      rw [hGrid] at hFormula'
      simp only [shownVisits, hFormula, if_true] at hAgree
      rcases hAgree _ List.mem_cons_self _
        hSessions.progress with ⟨hResult, hAfter⟩
      rw [left.run_displayCell_of_formula hFormula,
        right.run_displayCell_of_formula hFormula']
      simp only at hResult
      simp only [← hResult]
      cases ((left.evaluateCell cell).outcome
          s.progress).1 with
      | ok value =>
          simp only [shown, hDecimals]
          exact ⟨rfl, hAfter, hSessions.errors⟩
      | error failure =>
          simp only [shown, hGrid]
          refine ⟨rfl, hAfter, ?_⟩
          intro hTables
          simp only [Session.record, hSessions.errors hTables]

/- Cells that are evaluated alike are shown alike. -/
theorem alike_displayCells
    (hGrid : left.grid = right.grid)
    (hDecimals : left.settings.displayDecimals =
      right.settings.displayDecimals)
    (cells : List Cell)
    (hSessions : s.Agree related tables t)
    (hAgree :
      AgreeAt related left right (left.shownVisits cells s)) :
    Alike related tables
      ((cells.mapM left.displayCell).run s)
      ((cells.mapM right.displayCell).run t) := by
  refine Session.alike_mapM
    (fun cells s =>
      AgreeAt related left right (left.shownVisits cells s))
    ?_ cells hAgree hSessions
  intro cell rest s t hReady hSessions
  rw [shownVisits_cons] at hReady
  constructor
  · apply alike_displayCell hGrid hDecimals hSessions
    exact fun visit hVisit =>
      hReady visit (List.mem_append_left _ hVisit)
  · exact fun visit hVisit =>
      hReady visit (List.mem_append_right _ hVisit)

/- Rows whose cells are evaluated alike are shown alike. -/
theorem alike_displayRows
    (hGrid : left.grid = right.grid)
    (hDecimals : left.settings.displayDecimals =
      right.settings.displayDecimals)
    (rows : List (List Cell))
    (hSessions : s.Agree related tables t)
    (hAgree : AgreeAt related left right
      (left.shownVisits rows.flatten s)) :
    Alike related tables
      ((rows.mapM (List.mapM left.displayCell)).run s)
      ((rows.mapM (List.mapM right.displayCell)).run t) := by
  refine Session.alike_mapM
    (fun rows s => AgreeAt related left right
      (left.shownVisits rows.flatten s))
    ?_ rows hAgree hSessions
  intro cells rest s t hReady hSessions
  rw [List.flatten_cons, shownVisits_append] at hReady
  constructor
  · apply alike_displayCells hGrid hDecimals _ hSessions
    exact fun visit hVisit =>
      hReady visit (List.mem_append_left _ hVisit)
  · exact fun visit hVisit =>
      hReady visit (List.mem_append_right _ hVisit)

/-
  Two sheets over one grid respond to a request alike if they
  evaluate alike what it asks for.
-/
theorem respond_agree
    (left right : Sheet)
    (hGrid : left.grid = right.grid)
    (hDecimals : left.settings.displayDecimals =
      right.settings.displayDecimals)
    (hSurroundings :
      left.surroundings.Agree related False
        right.surroundings)
    (hInvalidate : ∀ {s t : Session},
      related s.progress t.progress →
        related s.invalidate.progress t.invalidate.progress)
    (request : Request)
    (hSessions : s.Agree related tables t)
    (hAgree : AgreeAt related left right
      (left.askedBy s request)) :
    Alike related tables ((left.respond request).run s)
      ((right.respond request).run t) := by
  cases request with
  | evaluate cell =>
      exact (Session.alike_perform hSessions
        (hAgree _ List.mem_cons_self _
          hSessions.progress)).map _
  | resolveCell label =>
      have hWithin :
          (Inquiry.ofLabel label).Within
            (fun _ => True) False :=
        Inquiry.ofLabel_within fun _ _ => trivial
      exact (Session.alike_perform hSessions
        (Inquiry.run_agree hSurroundings hWithin
          hSessions.progress
          fun visit hVisit _ => hAgree visit hVisit)).map _
  | resolveRange text =>
      have hWithin :
          (Inquiry.ofArea text).Within
            (fun _ => True) False :=
        Inquiry.ofArea_within fun _ _ _ _ => trivial
      exact (Session.alike_perform hSessions
        (Inquiry.run_agree hSurroundings hWithin
          hSessions.progress
          fun visit hVisit _ => hAgree visit hVisit)).map _
  | display cell =>
      exact (alike_displayCell hGrid hDecimals hSessions
        hAgree).map _
  | displayGrid duration =>
      refine Session.Alike.map _ ?_
      rw [run_displayGrid, run_displayGrid, ← hGrid]
      have hBegun :
          Session.Agree related tables
            (s.report (startedEvent left.grid.length
              left.grid.columns))
            (t.report (startedEvent left.grid.length
              left.grid.columns)) :=
        ⟨hSessions.progress, hSessions.errors⟩
      have hRows :=
        alike_displayRows hGrid hDecimals left.grid.places
          hBegun hAgree
      exact ⟨hRows.1, hRows.2.progress, hRows.2.errors⟩
  | invalidate =>
      exact ⟨rfl, hInvalidate hSessions.progress, fun _ => rfl⟩

/-
  Where cells are evaluated alike, the second sheet asks for
  no more than the first one to show them.
-/
theorem shownVisits_agree
    (hGrid : left.grid = right.grid)
    (hDecimals : left.settings.displayDecimals =
      right.settings.displayDecimals)
    {cells : List Cell}
    (hSessions : s.Agree related tables t)
    (hAgree :
      AgreeAt related left right (left.shownVisits cells s))
    {visit : Visit}
    (hVisit : visit ∈ right.shownVisits cells t) :
    ∃ other ∈ left.shownVisits cells s,
      other.cell = visit.cell ∧
        related other.progress visit.progress := by
  induction cells generalizing s t with
  | nil => simp [shownVisits] at hVisit
  | cons cell rest ih =>
      rw [shownVisits_cons] at hAgree hVisit
      have hFirst :
          AgreeAt related left right
            (left.shownVisits [cell] s) :=
        fun visit hVisit =>
          hAgree visit (List.mem_append_left _ hVisit)
      have hRest :
          AgreeAt related left right
            (left.shownVisits rest
              ((left.displayCell cell).run s).2) :=
        fun visit hVisit =>
          hAgree visit (List.mem_append_right _ hVisit)
      have hAfter :=
        (alike_displayCell hGrid hDecimals hSessions hFirst).2
      rw [shownVisits_cons]
      rcases List.mem_append.mp hVisit with hVisit | hVisit
      · refine ⟨⟨cell, s.progress⟩, ?_⟩
        simp only [shownVisits, hGrid] at hVisit ⊢
        split at hVisit
        · rename_i hFormula
          rw [List.mem_singleton] at hVisit
          subst hVisit
          simp [hFormula, hSessions.progress]
        · simp at hVisit
      · rcases ih hAfter hRest hVisit with
          ⟨other, hOther, hPlace⟩
        exact ⟨other, List.mem_append_right _ hOther, hPlace⟩

/-
  The second of two sheets that respond alike asks for no more
  than the first one.
-/
theorem askedBy_agree
    (left right : Sheet)
    (hGrid : left.grid = right.grid)
    (hDecimals : left.settings.displayDecimals =
      right.settings.displayDecimals)
    (hSurroundings :
      left.surroundings.Agree related False
        right.surroundings)
    (request : Request)
    (hSessions : s.Agree related tables t)
    (hAgree : AgreeAt related left right
      (left.askedBy s request))
    {visit : Visit}
    (hVisit : visit ∈ right.askedBy t request) :
    ∃ other ∈ left.askedBy s request,
      other.cell = visit.cell ∧
        related other.progress visit.progress := by
  cases request with
  | evaluate cell =>
      rw [askedBy, List.mem_singleton] at hVisit
      subst hVisit
      exact ⟨⟨cell, s.progress⟩, List.mem_cons_self, rfl,
        hSessions.progress⟩
  | resolveCell label =>
      have hWithin :
          (Inquiry.ofLabel label).Within
            (fun _ => True) False :=
        Inquiry.ofLabel_within fun _ _ => trivial
      exact Inquiry.questions_agree hSurroundings hWithin
        hSessions.progress
        (fun visit hVisit _ => hAgree visit hVisit) hVisit
  | resolveRange text =>
      have hWithin :
          (Inquiry.ofArea text).Within
            (fun _ => True) False :=
        Inquiry.ofArea_within fun _ _ _ _ => trivial
      exact Inquiry.questions_agree hSurroundings hWithin
        hSessions.progress
        (fun visit hVisit _ => hAgree visit hVisit) hVisit
  | display cell =>
      exact shownVisits_agree hGrid hDecimals hSessions
        hAgree hVisit
  | displayGrid duration =>
      simp only [askedBy, hGrid] at hAgree hVisit ⊢
      have hBegun :
          Session.Agree related tables
            (s.report (startedEvent right.grid.length
              right.grid.columns))
            (t.report (startedEvent right.grid.length
              right.grid.columns)) :=
        ⟨hSessions.progress, hSessions.errors⟩
      exact shownVisits_agree hGrid hDecimals hBegun hAgree
        hVisit
  | invalidate => simp [askedBy] at hVisit

end Sheet

end Spreadsheet
