import Spreadsheet.Proofs.Sheet.Guard

/-
  Evaluation without a guard.

  Where nothing is random and the clock stands still, a cell
  can be evaluated from the values of other cells alone, to
  any depth.  It has a result in this way if and only if the
  cells below it do not run in a circle that is looked at, and
  then the result is the same at every greater depth.

  An evaluation with a guard agrees with that: it comes to the
  unguarded result where there is one, whatever cells are in
  progress, and closes a circle where there is none.  That it
  is not stopped by a cell in progress comes from a measure:
  down the path the depth that a result needs decreases.

  Key definitions include:
    * `Spreadsheet.Inquiry.settle`
    * `Spreadsheet.Sheet.unguarded`
    * `Spreadsheet.Matches`
    * `Spreadsheet.Sheet.Descends`

  Main results:
    * `Spreadsheet.Sheet.unguarded_unique`
    * `Spreadsheet.Sheet.not_mem_of_descends`
    * `Spreadsheet.Sheet.matches_evaluateCell`
-/

------------------------------------------------------------
-- Inquiries With Fixed Answers
------------------------------------------------------------

namespace Spreadsheet

namespace Inquiry

variable {α : Type}

/-
  What an inquiry comes to at a time when some cells have an
  answer and the memory has place for texts of some lengths.
  It comes to nothing if another cell is asked about or a
  random number is drawn.
-/
def settle
    (now : Moment)
    (fits : Nat → Bool)
    (answers : Cell → Option (Except Failure Value)) :
    Inquiry α → Option (Except Failure α)
  | settled result => some result
  | asking cell next =>
      match answers cell with
      | some answer => (next answer).settle now fits answers
      | none => none
  | drawing _ => none
  | dating next => (next now).settle now fits answers
  | fitting length next =>
      (next (fits length)).settle now fits answers
termination_by structural inquiry => inquiry

/- With more answers an inquiry comes to the same. -/
theorem settle_mono
    {now : Moment}
    {fits : Nat → Bool}
    {answers others :
      Cell → Option (Except Failure Value)}
    (hMore : ∀ cell answer,
      answers cell = some answer →
        others cell = some answer)
    {inquiry : Inquiry α}
    {result : Except Failure α}
    (hSettled :
      inquiry.settle now fits answers = some result) :
    inquiry.settle now fits others = some result := by
  induction inquiry with
  | settled final => exact hSettled
  | asking cell next ih =>
      rw [settle] at hSettled ⊢
      cases hAnswer : answers cell with
      | none => simp [hAnswer] at hSettled
      | some answer =>
          simp only [hAnswer] at hSettled
          simp only [hMore cell answer hAnswer]
          exact ih answer hSettled
  | drawing next ih => simp [settle] at hSettled
  | dating next ih => exact ih now hSettled
  | fitting length next ih => exact ih _ hSettled

end Inquiry

namespace Sheet

variable (sheet : Sheet)

/- The first time that the clock shows. -/
def now : Moment := sheet.surroundings.clock 0

/- The same sheet with other random numbers and another clock. -/
def among
    (random : Nat → Float)
    (clock : Nat → Moment) :
    Sheet :=
  {
    sheet with
    surroundings := { sheet.surroundings with random, clock }
  }

/-
  What a cell comes to without a guard, if no chain of
  references below it is longer than the depth.
-/
def unguarded :
    (depth : Nat) → Cell → Option (Except Failure Value)
  | 0, _ => none
  | depth + 1, cell =>
      (sheet.inquiry cell).settle sheet.now
        sheet.surroundings.fits (unguarded depth)

/- What an inquiry comes to without a guard. -/
def settled
    {α : Type}
    (inquiry : Inquiry α)
    (depth : Nat) :
    Option (Except Failure α) :=
  inquiry.settle sheet.now sheet.surroundings.fits
    (sheet.unguarded depth)

variable {sheet : Sheet}

/- Without a guard only the grid and the time matter. -/
theorem unguarded_congr
    {left right : Sheet}
    (hGrid : left.grid = right.grid)
    (hNow : left.now = right.now)
    (hFits : left.surroundings.fits = right.surroundings.fits)
    (depth : Nat)
    (cell : Cell) :
    left.unguarded depth cell = right.unguarded depth cell := by
  induction depth generalizing cell with
  | zero => rfl
  | succ depth ih =>
      have hAnswers :
          left.unguarded depth = right.unguarded depth :=
        funext ih
      rw [unguarded, unguarded, hAnswers, hNow, hFits, inquiry,
        inquiry, hGrid]

/- At a greater depth a cell comes to the same. -/
theorem unguarded_mono
    {less depth : Nat}
    (hLess : less ≤ depth)
    {cell : Cell}
    {result : Except Failure Value}
    (hResult : sheet.unguarded less cell = some result) :
    sheet.unguarded depth cell = some result := by
  induction less generalizing depth cell result with
  | zero => simp [unguarded] at hResult
  | succ less ih =>
      cases depth with
      | zero => omega
      | succ depth =>
          refine Inquiry.settle_mono ?_ hResult
          intro other answer hAnswer
          exact ih (by omega) hAnswer

/- At all depths a cell comes to one result. -/
theorem unguarded_unique
    {first second : Nat}
    {cell : Cell}
    {left right : Except Failure Value}
    (hLeft : sheet.unguarded first cell = some left)
    (hRight : sheet.unguarded second cell = some right) :
    left = right := by
  have hFirst :=
    unguarded_mono (Nat.le_max_left first second) hLeft
  have hSecond :=
    unguarded_mono (Nat.le_max_right first second) hRight
  rw [hFirst] at hSecond
  exact Option.some.inj hSecond

theorem settled_mono
    {α : Type}
    {inquiry : Inquiry α}
    {less depth : Nat}
    (hLess : less ≤ depth)
    {result : Except Failure α}
    (hResult : sheet.settled inquiry less = some result) :
    sheet.settled inquiry depth = some result :=
  Inquiry.settle_mono
    (fun _ _ hAnswer => unguarded_mono hLess hAnswer) hResult

end Sheet

end Spreadsheet

------------------------------------------------------------
-- Results That Match
------------------------------------------------------------

namespace Spreadsheet

/-
  A result matches what is found at all depths: it is found at
  some depth, or it closes a circle and nothing is found.
-/
inductive Matches
    {α : Type}
    (found : Nat → Option (Except Failure α)) :
    Except Failure α → Prop where
  | found
      {result : Except Failure α}
      (depth : Nat)
      (hFound : found depth = some result) :
      Matches found result
  | circular
      (path : List Cell)
      (hNever : ∀ depth, found depth = none) :
      Matches found (.error (.circular path))

namespace Sheet

variable {sheet : Sheet}
variable {α : Type}

/- A result that matches is the one that a cell comes to. -/
theorem eq_of_matches
    {cell : Cell}
    {result final : Except Failure Value}
    (hMatches :
      Matches (fun depth => sheet.unguarded depth cell)
        result)
    {depth : Nat}
    (hFound : sheet.unguarded depth cell = some final) :
    result = final := by
  cases hMatches with
  | found other hOther =>
      exact unguarded_unique hOther hFound
  | circular path hNever => simp [hNever depth] at hFound

/- Two depths at which a cell and what follows have results. -/
theorem settled_asking
    {cell : Cell}
    {next : Except Failure Value → Inquiry α}
    {answer : Except Failure Value}
    {result : Except Failure α}
    {first second : Nat}
    (hAnswer : sheet.unguarded first cell = some answer)
    (hResult :
      sheet.settled (next answer) second = some result) :
    sheet.settled (.asking cell next) (max first second) =
      some result := by
  have hCell :=
    unguarded_mono (Nat.le_max_left first second) hAnswer
  simp only [settled, Inquiry.settle, hCell]
  exact settled_mono (Nat.le_max_right first second) hResult

/-
  The result of an inquiry matches if the first answer does
  and then the result of what follows.
-/
theorem matches_asking
    {cell : Cell}
    {next : Except Failure Value → Inquiry α}
    (hPasses : Inquiry.PassesOn next)
    {answer : Except Failure Value}
    (hAnswer :
      Matches (fun depth => sheet.unguarded depth cell)
        answer)
    {result : Except Failure α}
    (hResult :
      Matches (sheet.settled (next answer)) result) :
    Matches (sheet.settled (.asking cell next)) result := by
  cases hAnswer with
  | circular path hNever =>
      -- The circle is passed on, so that it is the result.
      have hNone :
          ∀ depth,
            sheet.settled (.asking cell next) depth =
              none := by
        intro depth
        simp only [settled, Inquiry.settle, hNever depth]
      rw [hPasses (.circular path) rfl] at hResult
      cases hResult with
      | found depth hFound =>
          cases hFound
          exact .circular path hNone
      | circular other hNever' =>
          exact .circular other hNone
  | found first hFirst =>
      cases hResult with
      | found second hSecond =>
          exact .found _ (settled_asking hFirst hSecond)
      | circular path hNever =>
          refine .circular path ?_
          intro depth
          simp only [settled, Inquiry.settle]
          cases hCell : sheet.unguarded depth cell with
          | none => rfl
          | some other =>
              rw [unguarded_unique hCell hFirst]
              exact hNever depth

/- A cell comes to what its inquiry comes to, one depth less. -/
theorem matches_of_inquiry
    {cell : Cell}
    {result : Except Failure Value}
    (hMatches :
      Matches (sheet.settled (sheet.inquiry cell)) result) :
    Matches (fun depth => sheet.unguarded depth cell)
      result := by
  cases hMatches with
  | found depth hFound => exact .found (depth + 1) hFound
  | circular path hNever =>
      refine .circular path ?_
      intro depth
      cases depth with
      | zero => rfl
      | succ depth => exact hNever depth

end Sheet

end Spreadsheet

------------------------------------------------------------
-- Down The Path
------------------------------------------------------------

namespace Spreadsheet

namespace Sheet

variable (sheet : Sheet)

/- A cell comes to a result at a depth. -/
def Has
    (depth : Nat)
    (cell : Cell) : Prop :=
  (sheet.unguarded depth cell).isSome

/-
  Whenever a cell on the path comes to a result, the cell that
  is reached does so at a lesser depth.
-/
def Descends
    (path : List Cell)
    (cell : Cell) : Prop :=
  ∀ above ∈ path, ∀ depth, sheet.Has depth above →
    ∃ less, less < depth ∧ sheet.Has less cell

/-
  Whenever a cell comes to a result, so does an inquiry, at
  one depth less.
-/
def Leads
    {α : Type}
    (cell : Cell)
    (inquiry : Inquiry α) : Prop :=
  ∀ depth, sheet.Has (depth + 1) cell →
    (sheet.settled inquiry depth).isSome

variable {sheet : Sheet}
variable {α : Type}
variable {path : List Cell}
variable {parent cell : Cell}

/- A cell with a result is not reached from itself. -/
theorem not_mem_of_descends
    (hDescends : sheet.Descends path cell)
    {depth : Nat}
    (hHas : sheet.Has depth cell) :
    cell ∉ path := by
  intro hMember
  induction depth using Nat.strongRecOn with
  | ind depth ih =>
      rcases hDescends cell hMember depth hHas with
        ⟨less, hLess, hLessHas⟩
      exact ih less hLess hLessHas

/- A cell that is asked about comes after the cell that asks. -/
theorem descends_asking
    {next : Except Failure Value → Inquiry α}
    (hDescends : sheet.Descends path parent)
    (hLeads : sheet.Leads parent (.asking cell next)) :
    sheet.Descends (parent :: path) cell := by
  have hParent :
      ∀ depth, sheet.Has depth parent →
        ∃ less, less < depth ∧ sheet.Has less cell := by
    intro depth hHas
    cases depth with
    | zero => simp [Has, unguarded] at hHas
    | succ depth =>
        refine ⟨depth, Nat.lt_succ_self depth, ?_⟩
        have hRest := hLeads depth hHas
        unfold Has
        cases hCell : sheet.unguarded depth cell with
        | some answer => rfl
        | none =>
            simp [settled, Inquiry.settle, hCell] at hRest
  intro above hAbove depth hHas
  rcases List.mem_cons.mp hAbove with rfl | hAbove
  · exact hParent depth hHas
  · rcases hDescends above hAbove depth hHas with
      ⟨middle, hMiddle, hMiddleHas⟩
    rcases hParent middle hMiddleHas with
      ⟨less, hLess, hLessHas⟩
    exact ⟨less, Nat.lt_trans hLess hMiddle, hLessHas⟩

/- After an answer that matches, an inquiry leads on. -/
theorem leads_next
    {next : Except Failure Value → Inquiry α}
    (hLeads : sheet.Leads parent (.asking cell next))
    {answer : Except Failure Value}
    (hAnswer :
      Matches (fun depth => sheet.unguarded depth cell)
        answer) :
    sheet.Leads parent (next answer) := by
  intro depth hHas
  have hRest := hLeads depth hHas
  unfold settled at hRest ⊢
  rw [Inquiry.settle] at hRest
  cases hCell : sheet.unguarded depth cell with
  | none => simp [hCell] at hRest
  | some other =>
      rw [eq_of_matches hAnswer hCell]
      simpa [hCell] using hRest

end Sheet

end Spreadsheet

------------------------------------------------------------
-- Guarded Evaluations
------------------------------------------------------------

namespace Spreadsheet

/-
  The value of a sheet is no matter of chance or time: no
  formula draws a random number and the clock stands still.
-/
structure Sheet.Steady
    (sheet : Sheet) : Prop where
  not_random : ∀ cell, ¬sheet.grid.IsRandomAt cell
  clock_eq : ∀ index,
    sheet.surroundings.clock index = sheet.now

namespace Sheet

/- At no visit is a cell given up for want of room. -/
def Calm
    (sheet : Sheet)
    (visits : List Visit) : Prop :=
  ∀ visit ∈ visits, ∀ limit,
    ((sheet.evaluateCell visit.cell).outcome
      visit.progress).1 ≠ .error (.tooDeep limit)

/- A cell was given up for want of room. -/
def isTooDeep :
    Except Failure Value → Bool
  | .error (.tooDeep _) => true
  | _ => false

theorem isTooDeep_eq_false_iff
    (result : Except Failure Value) :
    isTooDeep result = false ↔
      ∀ limit, result ≠ .error (.tooDeep limit) := by
  cases result with
  | ok value => simp [isTooDeep]
  | error failure => cases failure <;> simp [isTooDeep]

instance
    (sheet : Sheet)
    (visits : List Visit) :
    Decidable (sheet.Calm visits) :=
  decidable_of_iff
    (∀ visit ∈ visits,
      isTooDeep ((sheet.evaluateCell visit.cell).outcome
        visit.progress).1 = false)
    (forall₂_congr fun _ _ => isTooDeep_eq_false_iff _)

variable {sheet : Sheet}

/-
  If every answer matches that is found down the path, then
  all questions are down the path and the result of the run
  matches.
-/
theorem matches_run
    {α : Type}
    (hClock : ∀ index,
      sheet.surroundings.clock index = sheet.now)
    {cells : Cell → Prop}
    {inquiry : Inquiry α}
    (hWithin : inquiry.Within cells False)
    {path : List Cell}
    {parent : Cell}
    (hDescends : sheet.Descends path parent)
    (hLeads : sheet.Leads parent inquiry)
    {progress : Progress}
    (hAnswers :
      ∀ visit ∈ inquiry.questions sheet.surroundings
          sheet.evaluateCell progress,
        sheet.Descends (parent :: path) visit.cell →
          Matches
            (fun depth => sheet.unguarded depth visit.cell)
            ((sheet.evaluateCell visit.cell).outcome
              visit.progress).1) :
    (∀ visit ∈ inquiry.questions sheet.surroundings
        sheet.evaluateCell progress,
      sheet.Descends (parent :: path) visit.cell) ∧
    Matches (sheet.settled inquiry)
      ((sheet.resolve inquiry).outcome progress).1 := by
  induction hWithin generalizing progress with
  | settled result =>
      exact ⟨by simp [Inquiry.questions], .found 0 rfl⟩
  | @asking cell next hCell hPasses hNext ih =>
      have hFirst := descends_asking hDescends hLeads
      have hAnswer :=
        hAnswers ⟨cell, progress⟩ List.mem_cons_self hFirst
      have hRest :=
        ih _ (leads_next hLeads hAnswer) fun visit hVisit =>
          hAnswers visit (List.mem_cons_of_mem _ hVisit)
      constructor
      · intro visit hVisit
        rw [Inquiry.questions, List.mem_cons] at hVisit
        rcases hVisit with rfl | hVisit
        · exact hFirst
        · exact hRest.1 visit hVisit
      · rw [resolve, Inquiry.outcome_run_asking]
        exact matches_asking hPasses hAnswer hRest.2
  | drawing hDraws hNext ih => exact hDraws.elim
  | @dating next hNext ih =>
      have hNow := hClock progress.looked
      rw [Inquiry.questions, hNow] at hAnswers ⊢
      rw [resolve, Inquiry.outcome_run_dating, hNow]
      exact ih sheet.now hLeads hAnswers
  | fitting hNext ih => exact ih _ hLeads hAnswers

/-
  A visit where no value is known, the guard is in order, and
  from which no cell is given up for want of room.
-/
structure Ready
    (sheet : Sheet)
    (visit : Visit) : Prop where
  unknown : visit.progress.known = ∅
  guarded :
    visit.progress.Guarded sheet.settings.maxDepth
  calm : sheet.Calm (sheet.visits visit)

/- Where a visit is ready, there is room for its cell. -/
theorem Ready.has_room
    {cell : Cell}
    {progress : Progress}
    (hReady : sheet.Ready ⟨cell, progress⟩)
    (hOpens : progress.Opens cell) :
    progress.path.length < sheet.settings.maxDepth := by
  apply Nat.lt_of_not_le
  intro hFull
  have hDeep :=
    hReady.calm _ (mem_visits_self _) sheet.settings.maxDepth
  rw [sheet.outcome_full hOpens hFull] at hDeep
  exact hDeep rfl

/- Where values are not kept, inner visits are ready too. -/
theorem Ready.inner
    (hMemoize : sheet.settings.memoize = false)
    {visit inner : Visit}
    (hReady : sheet.Ready visit)
    (hInner : inner ∈ sheet.innerVisits visit) :
    sheet.Ready inner where
  unknown :=
    (sameKnown_of_mem_innerVisits hMemoize hInner).trans
      hReady.unknown
  guarded := guarded_of_mem_innerVisits hReady.guarded hInner
  calm other hOther :=
    hReady.calm other
      ((mem_visits_iff visit other).mpr
        (Or.inr ⟨inner, hInner, hOther⟩))

/-
  From a visit that is ready, down the path, an evaluation
  comes to a result that matches and asks only about cells
  further down.
-/
theorem matches_evaluateCell
    (hSteady : sheet.Steady)
    (hMemoize : sheet.settings.memoize = false)
    {cell : Cell}
    {progress : Progress}
    (hReady : sheet.Ready ⟨cell, progress⟩)
    (hDescends : sheet.Descends progress.path cell) :
    (∀ visit ∈ sheet.innerVisits ⟨cell, progress⟩,
      sheet.Descends visit.progress.path visit.cell) ∧
    Matches (fun depth => sheet.unguarded depth cell)
      ((sheet.evaluateCell cell).outcome progress).1 := by
  induction cell, progress using sheet.evaluateCell_cases with
  | known cell progress value hValue =>
      have hUnknown : progress.known = ∅ := hReady.unknown
      simp [hUnknown] at hValue
  | busy cell progress hNone hBusy =>
      -- A busy cell is on the path, and down the path no cell
      -- with a result comes twice.
      have hNever :
          ∀ depth, sheet.unguarded depth cell = none := by
        intro depth
        rw [← Option.not_isSome_iff_eq_none]
        intro hHas
        exact not_mem_of_descends hDescends hHas
          ((hReady.guarded.mem_busy_iff cell).mp hBusy)
      have hBegins : ¬sheet.Begins ⟨cell, progress⟩ := by
        intro hBegins
        exact hBegins.1.2 hBusy
      rw [sheet.outcome_busy hNone hBusy,
        innerVisits_eq_nil hBegins]
      exact ⟨by simp, .circular _ hNever⟩
  | full cell progress hOpens hFull =>
      have hRoom := hReady.has_room hOpens
      exact absurd hRoom (Nat.not_lt_of_le hFull)
  | begun cell progress hOpens hRoom ih =>
      have hBegins : sheet.Begins ⟨cell, progress⟩ :=
        ⟨hOpens, hRoom⟩
      have hPath :
          ∀ visit ∈ sheet.innerVisits ⟨cell, progress⟩,
            visit.progress.path = cell :: progress.path :=
        fun visit hVisit => path_of_mem_innerVisits hVisit
      have hAnswers :
          ∀ visit ∈ sheet.innerVisits ⟨cell, progress⟩,
            sheet.Descends (cell :: progress.path)
              visit.cell →
            Matches
              (fun depth => sheet.unguarded depth visit.cell)
              ((sheet.evaluateCell visit.cell).outcome
                visit.progress).1 := by
        intro visit hVisit hBelow
        rw [← hPath visit hVisit] at hBelow
        exact (ih visit.cell visit.progress
          (hPath visit hVisit)
          (hReady.inner hMemoize hVisit) hBelow).2
      rw [innerVisits_eq hBegins] at hAnswers hPath ⊢
      rcases matches_run hSteady.clock_eq
          ((sheet.inquiry_within cell).mono
            (fun _ hRefers => hRefers)
            (hSteady.not_random cell))
          hDescends (fun _ hHas => hHas) hAnswers with
        ⟨hBelow, hMatches⟩
      constructor
      · intro visit hVisit
        rw [hPath visit hVisit]
        exact hBelow visit hVisit
      · rw [sheet.outcome_begun hOpens hRoom]
        exact matches_of_inquiry hMatches

end Sheet

end Spreadsheet
