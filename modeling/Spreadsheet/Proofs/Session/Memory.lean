import Spreadsheet.Proofs.Session.Request
import Spreadsheet.Proofs.Sheet.Found

/-
  What it changes to keep values.

  A sheet that keeps values skips evaluations that it has made
  before, also below cells that are in progress now and were
  not in progress then.  It still answers as a sheet that
  keeps none: a value that was kept is what its cell comes to
  without a guard, and an evaluation in any other place comes
  to the same or closes the same circle.  It also nests no
  evaluations that the other sheet does not nest, so that the
  stack of an interpreter that holds those of one holds those
  of both.

  Key definitions include:
    * `Spreadsheet.Sheet.memoizing`
    * `Spreadsheet.Sheet.Remembers`
    * `Spreadsheet.Sheet.HeldBy`

  Main results:
    * `Spreadsheet.Sheet.remembers_evaluateCell`
    * `Spreadsheet.Sheet.nests_of_remembers`
    * `Spreadsheet.Sheet.transcript_memoizing`
-/

------------------------------------------------------------
-- The Stack Of The Interpreter
------------------------------------------------------------

namespace Spreadsheet

/-
  The cells that are evaluated inside each other when a cell is
  visited, the innermost one first.
-/
def Visit.nesting
    (visit : Visit) :
    List Cell :=
  visit.cell :: visit.progress.path

namespace Sheet

open Session (Request)

/-
  The stack of the interpreter holds the evaluations that are
  made for requests.  It holds some nestings of cells and not
  others, and for some requests more of them than for others.
  Where a nesting is not held the interpreter gives up, and
  what it does then is not described here.
-/
def HeldBy
    (sheet : Sheet)
    (stack : Request → List Cell → Prop) :
    List Request → Session → Prop
  | [], _ => True
  | request :: rest, session =>
      (∀ asked ∈ sheet.askedBy session request,
        ∀ visit ∈ sheet.visits asked,
          stack request visit.nesting) ∧
      sheet.HeldBy stack rest
        ((sheet.respond request).run session).2

instance HeldBy.decidable
    (sheet : Sheet)
    (stack : Request → List Cell → Prop)
    [∀ request nesting, Decidable (stack request nesting)] :
    (requests : List Request) →
    (session : Session) →
      Decidable (sheet.HeldBy stack requests session)
  | [], _ => .isTrue trivial
  | _ :: rest, _ =>
      have := HeldBy.decidable sheet stack rest
      inferInstanceAs (Decidable (_ ∧ _))

end Sheet

end Spreadsheet

------------------------------------------------------------
-- Kept Values
------------------------------------------------------------

namespace Spreadsheet

namespace Sheet

/- The same sheet where values are kept, or are not. -/
def memoizing
    (sheet : Sheet)
    (memoize : Bool) :
    Sheet :=
  { sheet with settings := { sheet.settings with memoize } }

/-
  Two progresses have the same guard.  In the first one no
  value is known, and those in the second one are what their
  cells come to without a guard.
-/
structure Remembers
    (sheet : Sheet)
    (p q : Progress) : Prop where
  unknown : p.known = ∅
  same_guard : SameGuard p q
  sound : ∀ {cell value}, q.known[cell]? = some value →
    ∃ depth, sheet.unguarded depth cell = some (.ok value)

namespace Remembers

variable {sheet : Sheet}
variable {p q : Progress}

theorem enter
    (hRemembers : sheet.Remembers p q)
    (cell : Cell) :
    sheet.Remembers (p.enter cell) (q.enter cell) where
  unknown := hRemembers.unknown
  same_guard := hRemembers.same_guard.enter cell
  sound := hRemembers.sound

theorem leave
    (hRemembers : sheet.Remembers p q)
    (cell : Cell) :
    sheet.Remembers (p.leave cell) (q.leave cell) where
  unknown := hRemembers.unknown
  same_guard := hRemembers.same_guard.leave cell
  sound := hRemembers.sound

/- A value that its cell comes to can be kept. -/
theorem keep
    (hRemembers : sheet.Remembers p q)
    {cell : Cell}
    {value : Value}
    {depth : Nat}
    (hValue : sheet.unguarded depth cell = some (.ok value)) :
    sheet.Remembers p (q.keep cell value) where
  unknown := hRemembers.unknown
  same_guard :=
    ⟨hRemembers.same_guard.path_eq,
      hRemembers.same_guard.busy_eq⟩
  sound {other found} hFound := by
    have hSound : sheet.Sound q := fun _ _ =>
      hRemembers.sound
    exact hSound.keep hValue other found hFound

/- Where an evaluation ends, its value may be kept. -/
theorem closed
    (hMemoize : sheet.settings.memoize = false)
    (hRemembers : sheet.Remembers p q)
    {cell : Cell}
    {result : Except Failure Value}
    (hMatches :
      Matches (fun depth => sheet.unguarded depth cell)
        result) :
    sheet.Remembers (sheet.closed cell result p)
      ((sheet.memoizing true).closed cell result q) := by
  unfold Sheet.closed
  rw [hMemoize]
  cases result with
  | error failure => exact hRemembers.leave cell
  | ok value =>
      cases hMatches with
      | found depth hFound =>
          exact (hRemembers.leave cell).keep hFound

end Remembers

/- Where the clock stands still, both see the same. -/
theorem agree_remembers
    {sheet : Sheet}
    (hSteady : sheet.Steady) :
    sheet.surroundings.Agree sheet.Remembers False
      sheet.surroundings where
  random hRandom := hRandom.elim
  clock {p q} hRemembers := by
    refine ⟨?_, hRemembers.unknown, ⟨?_, ?_⟩,
      hRemembers.sound⟩
    · rw [hSteady.clock_eq, hSteady.clock_eq]
    · exact hRemembers.same_guard.path_eq
    · exact hRemembers.same_guard.busy_eq
  fits := rfl

variable {sheet : Sheet}

/-
  An evaluation that is skipped would have come to the value
  that is known.
-/
theorem agree_of_known
    (hSteady : sheet.Steady)
    (hMemoize : sheet.settings.memoize = false)
    {cell : Cell}
    {p q : Progress}
    (hReady : sheet.Ready ⟨cell, p⟩)
    (hDescends : sheet.Descends p.path cell)
    (hRemembers : sheet.Remembers p q)
    {value : Value}
    (hKnown : q.known[cell]? = some value) :
    Agree sheet.Remembers
      ((sheet.evaluateCell cell).outcome p)
      (((sheet.memoizing true).evaluateCell cell).outcome
        q) := by
  rcases hRemembers.sound hKnown with ⟨depth, hFound⟩
  have hMatches :=
    (matches_evaluateCell hSteady hMemoize hReady
      hDescends).2
  have hGuard := sheet.evaluateCell_keeps_guard cell p
  have hUnknown :=
    sheet.evaluateCell_keeps_known hMemoize cell p
  rw [(sheet.memoizing true).outcome_known hKnown]
  refine ⟨eq_of_matches hMatches hFound, ?_, ?_, ?_⟩
  · exact hUnknown.trans hRemembers.unknown
  · exact ⟨hRemembers.same_guard.path_eq.trans
      hGuard.path_eq.symm,
      hRemembers.same_guard.busy_eq.trans
        hGuard.busy_eq.symm⟩
  · exact hRemembers.sound

/-
  An evaluation that begins whether values are kept or not
  ends alike if it is answered alike.
-/
theorem agree_of_begun
    (hSteady : sheet.Steady)
    (hMemoize : sheet.settings.memoize = false)
    {cell : Cell}
    {p q : Progress}
    (hReady : sheet.Ready ⟨cell, p⟩)
    (hDescends : sheet.Descends p.path cell)
    (hRemembers : sheet.Remembers p q)
    (hOpens : p.Opens cell)
    (hRoom : p.path.length < sheet.settings.maxDepth)
    (hUnknown : q.known[cell]? = none)
    (hAnswers :
      ∀ visit ∈ sheet.innerVisits ⟨cell, p⟩,
        sheet.Descends visit.progress.path visit.cell →
        ∀ q, sheet.Remembers visit.progress q →
          Agree sheet.Remembers
            ((sheet.evaluateCell visit.cell).outcome
              visit.progress)
            (((sheet.memoizing true).evaluateCell
              visit.cell).outcome q)) :
    Agree sheet.Remembers
      ((sheet.evaluateCell cell).outcome p)
      (((sheet.memoizing true).evaluateCell cell).outcome
        q) := by
  have hOpens' : q.Opens cell := by
    refine ⟨hUnknown, ?_⟩
    rw [hRemembers.same_guard.busy_eq]
    exact hOpens.2
  have hRoom' :
      q.path.length <
        (sheet.memoizing true).settings.maxDepth := by
    rw [hRemembers.same_guard.path_eq]
    exact hRoom
  have hBegins : sheet.Begins ⟨cell, p⟩ := ⟨hOpens, hRoom⟩
  rcases matches_evaluateCell hSteady hMemoize hReady
    hDescends with ⟨hBelow, hMatches⟩
  have hInside :
      Agree sheet.Remembers
        ((sheet.resolve (sheet.inquiry cell)).outcome
          (p.enter cell))
        (((sheet.memoizing true).resolve
          (sheet.inquiry cell)).outcome (q.enter cell)) := by
    refine Inquiry.run_agree (agree_remembers hSteady)
      ((sheet.inquiry_within cell).mono
        (fun _ hRefers => hRefers) (hSteady.not_random cell))
      (hRemembers.enter cell) ?_
    rw [← innerVisits_eq hBegins]
    intro visit hVisit _ q' hRemembers'
    exact hAnswers visit hVisit (hBelow visit hVisit) q'
      hRemembers'
  rw [sheet.outcome_begun hOpens hRoom] at hMatches ⊢
  rw [(sheet.memoizing true).outcome_begun hOpens' hRoom']
  rcases hInside with ⟨hResult, hAfter⟩
  refine ⟨hResult, ?_⟩
  -- The value that is kept matches, so that it is remembered
  -- rightly wherever the cell is asked about again.
  have hClosed := hAfter.closed hMemoize hMatches
  rw [hResult] at hClosed
  simp only [hResult]
  exact hClosed

/-
  From progress that remembers only what is so, a sheet that
  keeps values evaluates a cell as one that keeps none.
-/
theorem remembers_evaluateCell
    (hSteady : sheet.Steady)
    (hMemoize : sheet.settings.memoize = false)
    {cell : Cell}
    {p : Progress}
    (hReady : sheet.Ready ⟨cell, p⟩)
    (hDescends : sheet.Descends p.path cell)
    {q : Progress}
    (hRemembers : sheet.Remembers p q) :
    Agree sheet.Remembers
      ((sheet.evaluateCell cell).outcome p)
      (((sheet.memoizing true).evaluateCell cell).outcome
        q) := by
  induction cell, p using sheet.evaluateCell_cases
    generalizing q with
  | known cell p value hValue =>
      have hUnknown : p.known = ∅ := hRemembers.unknown
      simp [hUnknown] at hValue
  | busy cell p hNone hBusy =>
      cases hKnown : q.known[cell]? with
      | some value =>
          exact agree_of_known hSteady hMemoize hReady
            hDescends hRemembers hKnown
      | none =>
          have hBusy' : cell ∈ q.busy := by
            rw [hRemembers.same_guard.busy_eq]
            exact hBusy
          rw [sheet.outcome_busy hNone hBusy,
            (sheet.memoizing true).outcome_busy hKnown
              hBusy']
          refine ⟨?_, hRemembers⟩
          simp only [Progress.circle,
            hRemembers.same_guard.path_eq]
  | full cell p hOpens hFull =>
      have hRoom := hReady.has_room hOpens
      exact absurd hRoom (Nat.not_lt_of_le hFull)
  | begun cell p hOpens hRoom ih =>
      cases hKnown : q.known[cell]? with
      | some value =>
          exact agree_of_known hSteady hMemoize hReady
            hDescends hRemembers hKnown
      | none =>
          refine agree_of_begun hSteady hMemoize hReady
            hDescends hRemembers hOpens hRoom hKnown ?_
          intro visit hVisit hBelow q' hRemembers'
          exact ih visit.cell visit.progress
            (path_of_mem_innerVisits hVisit)
            (hReady.inner hMemoize hVisit) hBelow
            hRemembers'

/-
  Each evaluation that a sheet makes that keeps values is made
  in the same place by one that keeps none.
-/
theorem nests_of_remembers
    (hSteady : sheet.Steady)
    (hMemoize : sheet.settings.memoize = false)
    {visit : Visit}
    (hReady : sheet.Ready visit)
    (hDescends :
      sheet.Descends visit.progress.path visit.cell)
    {seen served : Visit}
    (hCell : visit.cell = seen.cell)
    (hRemembers :
      sheet.Remembers visit.progress seen.progress)
    (hServed :
      served ∈ (sheet.memoizing true).visits seen) :
    ∃ other ∈ sheet.visits visit,
      other.nesting = served.nesting := by
  -- On the way down each visit has a counterpart that is
  -- ready, below its path, and remembers nothing.
  suffices hCounterpart :
      ∃ other ∈ sheet.visits visit,
        sheet.Ready other ∧
        sheet.Descends other.progress.path other.cell ∧
        other.cell = served.cell ∧
        sheet.Remembers other.progress served.progress by
    rcases hCounterpart with
      ⟨other, hOther, -, -, hCell, hRemembers⟩
    refine ⟨other, hOther, ?_⟩
    simp only [Visit.nesting, hCell,
      hRemembers.same_guard.path_eq]
  refine visits_induction
    (motive := fun served =>
      ∃ other ∈ sheet.visits visit,
        sheet.Ready other ∧
        sheet.Descends other.progress.path other.cell ∧
        other.cell = served.cell ∧
        sheet.Remembers other.progress served.progress)
    ?_ ⟨visit, mem_visits_self visit, hReady, hDescends,
      hCell, hRemembers⟩ hServed
  rintro middle inner
    ⟨⟨cell, p⟩, hOther, hReady, hDescends, rfl, hRemembers⟩
    hInner
  have hBegun := (sameGuard_of_mem_innerVisits hInner).1
  have hOpens : p.Opens middle.cell := by
    have hUnknown : p.known = ∅ := hRemembers.unknown
    refine ⟨by simp [hUnknown], ?_⟩
    rw [← hRemembers.same_guard.busy_eq]
    exact hBegun.1.2
  have hBegins : sheet.Begins ⟨middle.cell, p⟩ :=
    ⟨hOpens, hReady.has_room hOpens⟩
  have hBelow :=
    (matches_evaluateCell hSteady hMemoize hReady
      hDescends).1
  rw [innerVisits_eq hBegun] at hInner
  rcases Inquiry.questions_agree (agree_remembers hSteady)
      ((sheet.inquiry_within middle.cell).mono
        (fun _ hRefers => hRefers)
        (hSteady.not_random middle.cell))
      (hRemembers.enter middle.cell)
      (by
        rw [← innerVisits_eq hBegins]
        intro visit hVisit _ q hRemembers
        exact remembers_evaluateCell hSteady hMemoize
          (hReady.inner hMemoize hVisit)
          (hBelow visit hVisit) hRemembers)
      hInner with ⟨other, hAsked, hCell, hAfter⟩
  rw [← innerVisits_eq hBegins] at hAsked
  exact ⟨other,
    mem_visits_of_mem_innerVisits hOther hAsked,
    hReady.inner hMemoize hAsked, hBelow other hAsked, hCell,
    hAfter⟩

end Sheet

end Spreadsheet

------------------------------------------------------------
-- Sessions That Keep Values
------------------------------------------------------------

namespace Spreadsheet

namespace Sheet

open Session (Request)

variable {sheet : Sheet}

/- Between requests nothing is in progress either. -/
def RemembersIdle
    (sheet : Sheet)
    (p q : Progress) : Prop :=
  sheet.Remembers p q ∧ p.Idle

theorem agree_remembersIdle
    (hSteady : sheet.Steady) :
    sheet.surroundings.Agree sheet.RemembersIdle False
      sheet.surroundings where
  random hRandom := hRandom.elim
  clock {p q} hRelated := by
    rcases (agree_remembers hSteady).clock hRelated.1 with
      ⟨hNow, hAfter⟩
    exact ⟨hNow, hAfter, hRelated.2.path_eq,
      hRelated.2.busy_eq⟩
  fits := rfl

/- Nothing is remembered after all was forgotten. -/
theorem remembers_invalidate
    (s t : Session) :
    sheet.Remembers s.invalidate.progress
      t.invalidate.progress where
  unknown := rfl
  same_guard := ⟨rfl, rfl⟩
  sound {cell value} hFound := by
    have hUnknown : t.invalidate.progress.known = ∅ := rfl
    simp [hUnknown] at hFound

/- Where nothing is known or in progress, a visit is ready. -/
theorem ready_of_idle
    {visit : Visit}
    (hUnknown : visit.progress.known = ∅)
    (hIdle : visit.progress.Idle)
    (hCalm : sheet.Calm (sheet.visits visit)) :
    sheet.Ready visit :=
  ⟨hUnknown, hIdle.guarded _, hCalm⟩

/- Where nothing is in progress, no cell is above another. -/
theorem descends_of_idle
    {p : Progress}
    (hIdle : p.Idle)
    (cell : Cell) :
    sheet.Descends p.path cell := by
  rw [hIdle.path_eq]
  intro above hAbove
  simp at hAbove

/- A cell that a request asks for is evaluated alike. -/
theorem agree_of_remembersIdle
    (hSteady : sheet.Steady)
    (hMemoize : sheet.settings.memoize = false)
    {visit : Visit}
    (hCalm : sheet.Calm (sheet.visits visit))
    {q : Progress}
    (hRelated : sheet.RemembersIdle visit.progress q) :
    Agree sheet.RemembersIdle
      ((sheet.evaluateCell visit.cell).outcome
        visit.progress)
      (((sheet.memoizing true).evaluateCell
        visit.cell).outcome q) := by
  rcases hRelated with ⟨hRemembers, hIdle⟩
  rcases remembers_evaluateCell hSteady hMemoize
    (ready_of_idle hRemembers.unknown hIdle hCalm)
    (descends_of_idle hIdle visit.cell) hRemembers with
      ⟨hResult, hAfter⟩
  exact ⟨hResult, hAfter, hIdle.of_sameGuard
    (sheet.evaluateCell_keeps_guard _ _)⟩

/- What a request asks for is evaluated alike. -/
theorem agreeAt_askedBy
    (hSteady : sheet.Steady)
    (hMemoize : sheet.settings.memoize = false)
    {request : Request}
    {s : Session}
    (hCalm : ∀ asked ∈ sheet.askedBy s request,
      sheet.Calm (sheet.visits asked)) :
    AgreeAt sheet.RemembersIdle sheet (sheet.memoizing true)
      (sheet.askedBy s request) :=
  fun asked hAsked _ hRelated =>
    agree_of_remembersIdle hSteady hMemoize
      (hCalm asked hAsked) hRelated

/-
  For a request, a sheet that keeps values nests no cells that
  a sheet that keeps none does not nest.
-/
theorem nests_askedBy
    (hSteady : sheet.Steady)
    (hMemoize : sheet.settings.memoize = false)
    {request : Request}
    {s t : Session}
    (hSessions : s.Agree sheet.RemembersIdle True t)
    (hCalm : ∀ asked ∈ sheet.askedBy s request,
      sheet.Calm (sheet.visits asked))
    {seen served : Visit}
    (hSeen :
      seen ∈ (sheet.memoizing true).askedBy t request)
    (hServed :
      served ∈ (sheet.memoizing true).visits seen) :
    ∃ asked ∈ sheet.askedBy s request,
      ∃ other ∈ sheet.visits asked,
        other.nesting = served.nesting := by
  rcases askedBy_agree sheet (sheet.memoizing true) rfl rfl
      (agree_remembersIdle hSteady) request hSessions
      (agreeAt_askedBy hSteady hMemoize hCalm) hSeen with
    ⟨asked, hAsked, hCell, hRemembers, hIdle⟩
  refine ⟨asked, hAsked, ?_⟩
  exact nests_of_remembers hSteady hMemoize
    (ready_of_idle hRemembers.unknown hIdle
      (hCalm asked hAsked))
    (descends_of_idle hIdle asked.cell) hCell hRemembers
    hServed

/-
  From sessions with nothing in progress, a sheet that keeps
  values gives the same responses and has the same tables of
  failures as one that keeps none, and a stack that holds the
  evaluations of the latter holds those of the former.
-/
theorem transcript_of_remembers
    (hSteady : sheet.Steady)
    (hMemoize : sheet.settings.memoize = false)
    (requests : List Request)
    (stack : Request → List Cell → Prop)
    {s t : Session}
    (hSessions : s.Agree sheet.RemembersIdle True t)
    (hCalm : sheet.Calm (sheet.visitsOf requests s))
    (hHeld : sheet.HeldBy stack requests s) :
    (sheet.memoizing true).transcript requests t =
        sheet.transcript requests s ∧
      (sheet.memoizing true).HeldBy stack requests t := by
  induction requests generalizing s t with
  | nil => exact ⟨rfl, trivial⟩
  | cons request rest ih =>
      have hFirst :
          ∀ asked ∈ sheet.askedBy s request,
            sheet.Calm (sheet.visits asked) :=
        fun asked hAsked visit hVisit =>
          hCalm visit
            (visits_subset_visitsOf hAsked rest hVisit)
      have hRest :
          sheet.Calm (sheet.visitsOf rest
            ((sheet.respond request).run s).2) :=
        fun visit hVisit =>
          hCalm visit
            (visitsOf_subset_visitsOf sheet request rest s
              hVisit)
      have hAlike :
          Session.Alike sheet.RemembersIdle True
            ((sheet.respond request).run s)
            (((sheet.memoizing true).respond
              request).run t) := by
        refine respond_agree sheet (sheet.memoizing true)
          rfl rfl ?_ ?_ request hSessions ?_
        · exact agree_remembersIdle hSteady
        · intro s t _
          exact ⟨remembers_invalidate s t, rfl, rfl⟩
        · exact agreeAt_askedBy hSteady hMemoize hFirst
      rcases hAlike with ⟨hResponse, hAfter⟩
      rcases hHeld with ⟨hNow, hLater⟩
      rcases ih hAfter hRest hLater with ⟨hOthers, hHeld⟩
      constructor
      · rw [transcript_cons, transcript_cons, hOthers,
          hResponse, hAfter.errors trivial]
      · refine ⟨?_, hHeld⟩
        intro seen hSeen served hServed
        rcases nests_askedBy hSteady hMemoize hSessions
            hFirst hSeen hServed with
          ⟨asked, hAsked, other, hOther, hNesting⟩
        rw [← hNesting]
        exact hNow asked hAsked other hOther

/-
  Whether values are kept or not makes no difference to the
  responses and the tables of failures.  No formula may draw
  random numbers, the clock has to stand still, and nowhere,
  not even inside an attempt, may the sheet that keeps no
  values give up a cell for want of room.  The interpreter may
  not give up either: its stack has to hold all evaluations of
  the sheet that keeps no values, and it then holds those of
  the sheet that keeps them.
-/
theorem transcript_memoizing
    (sheet : Sheet)
    (hRandom : ∀ cell, ¬sheet.grid.IsRandomAt cell)
    (hClock : ∀ index,
      sheet.surroundings.clock index =
        sheet.surroundings.clock 0)
    (requests : List Request)
    (hCalm : (sheet.memoizing false).Calm
      ((sheet.memoizing false).visitsOf requests .start))
    (stack : Request → List Cell → Prop)
    (hHeld : (sheet.memoizing false).HeldBy stack requests
      .start) :
    (sheet.memoizing true).transcript requests .start =
        (sheet.memoizing false).transcript requests .start ∧
      (sheet.memoizing true).HeldBy stack requests
        .start := by
  have hSteady : (sheet.memoizing false).Steady :=
    ⟨hRandom, hClock⟩
  have hRemembers :
      (sheet.memoizing false).RemembersIdle .start .start := by
    refine ⟨⟨rfl, ⟨rfl, rfl⟩, ?_⟩, ⟨rfl, rfl⟩⟩
    intro cell value hFound
    simp [Progress.start] at hFound
  exact transcript_of_remembers hSteady rfl requests stack
    ⟨hRemembers, fun _ => rfl⟩ hCalm hHeld

/-
  A sheet whose first cell tries a quotient by zero of its
  third cell and falls back on its second one, which refers to
  the third one again.  The fourth cell refers to itself.
-/
def servingAgain : Sheet where
  grid :=
    [[some "=IFERROR(C1/0,B1)", some "=C1+1", some "=2*3",
      some "=D1"]]
  settings := ⟨5, 10, false, false, 1⟩
  surroundings := .still

theorem not_isRandomAt_servingAgain
    (cell : Cell) :
    ¬servingAgain.grid.IsRandomAt cell :=
  Grid.not_isRandomAt (by decide +kernel) cell

/-
  The third cell is kept in an attempt that fails and served to
  the fallback; later the second and the first cell are served
  as well.  All of this leaves the responses as they are, and
  no more than three cells nest.
-/
theorem transcript_servingAgain :
    let requests : List Request :=
      [.evaluate ⟨0, 0⟩, .display ⟨0, 1⟩, .display ⟨0, 3⟩,
        .evaluate ⟨0, 0⟩]
    let stack : Request → List Cell → Prop :=
      fun _ nesting => nesting.length ≤ 3
    let plain := servingAgain.memoizing false
    let keeping := servingAgain.memoizing true
    ((keeping.visitsOf requests .start).filter fun visit =>
        visit.progress.known[visit.cell]?.isSome).map
          Visit.cell =
      [⟨0, 2⟩, ⟨0, 1⟩, ⟨0, 0⟩] ∧
    plain.Calm (plain.visitsOf requests .start) ∧
    plain.HeldBy stack requests .start ∧
    keeping.transcript requests .start =
      plain.transcript requests .start ∧
    keeping.HeldBy stack requests .start := by
  intro requests stack plain keeping
  have hServed :
      ((keeping.visitsOf requests .start).filter fun visit =>
          visit.progress.known[visit.cell]?.isSome).map
            Visit.cell =
        [⟨0, 2⟩, ⟨0, 1⟩, ⟨0, 0⟩] := by
    decide +kernel
  have hCalm :
      plain.Calm (plain.visitsOf requests .start) := by
    decide +kernel
  have hHeld : plain.HeldBy stack requests .start := by
    decide +kernel
  exact ⟨hServed, hCalm, hHeld,
    transcript_memoizing servingAgain
      not_isRandomAt_servingAgain (fun _ => rfl) requests
      hCalm stack hHeld⟩

end Sheet

end Spreadsheet
