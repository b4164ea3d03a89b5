import Spreadsheet.Evaluation.Run

/-
  Laws of inquiries and of the runs that make them.

  Inquiries are a lawful monad, and a run of one inquiry
  behind another is the one run behind the other.  Bounds say
  which questions an inquiry may ask at all.  Two runs of one
  inquiry agree if their answers to these questions do.

  Key definitions include:
    * `Spreadsheet.Inquiry.Within`
    * `Spreadsheet.Inquiry.questions`
    * `Spreadsheet.Inquiry.states`
    * `Spreadsheet.Progress.IsPreserved`
    * `Spreadsheet.Run.Keeps`
    * `Spreadsheet.Agree`

  Main results:
    * `Spreadsheet.Inquiry.outcome_andThen`
    * `Spreadsheet.Inquiry.states_preserve`
    * `Spreadsheet.Inquiry.run_keeps`
    * `Spreadsheet.Inquiry.run_agree`
    * `Spreadsheet.Inquiry.questions_agree`
-/

------------------------------------------------------------
-- Outcomes Of Steps
------------------------------------------------------------

namespace Spreadsheet

namespace Run

variable {α β : Type}

@[simp] theorem outcome_pure
    (value : α)
    (progress : Progress) :
    (pure value : Run α).outcome progress =
      (.ok value, progress) := rfl

@[simp] theorem outcome_throw
    (failure : Failure)
    (progress : Progress) :
    (throw failure : Run α).outcome progress =
      (.error failure, progress) := rfl

@[simp] theorem outcome_get
    (progress : Progress) :
    (get : Run Progress).outcome progress =
      (.ok progress, progress) := rfl

@[simp] theorem outcome_modify
    (change : Progress → Progress)
    (progress : Progress) :
    (modify change : Run Unit).outcome progress =
      (.ok (), change progress) := rfl

/- What follows on a value is run where the run left off. -/
theorem outcome_bind
    (run : Run α)
    (follow : α → Run β)
    (progress : Progress) :
    (run >>= follow).outcome progress =
      match run.outcome progress with
      | (.ok value, after) => (follow value).outcome after
      | (.error failure, after) => (.error failure, after) := by
  simp only [outcome, bind, ExceptT.bind, ExceptT.mk,
    StateT.bind]
  rcases run progress with ⟨result, after⟩
  cases result <;> rfl

/- What an observed run comes to is a value. -/
@[simp] theorem outcome_observing
    (run : Run α)
    (progress : Progress) :
    (observing run).outcome progress =
      (.ok (run.outcome progress).1,
        (run.outcome progress).2) := by
  simp only [observing, outcome, tryCatch, tryCatchThe,
    MonadExceptOf.tryCatch, ExceptT.tryCatch, ExceptT.mk,
    bind, ExceptT.bind, StateT.bind]
  rcases run progress with ⟨result, after⟩
  cases result <;> rfl

/- A change at the end happens however the run ends. -/
@[simp] theorem outcome_tryFinally
    (run : Run α)
    (change : Progress → Progress)
    (progress : Progress) :
    (tryFinally run (modify change : Run Unit)).outcome
        progress =
      ((run.outcome progress).1,
        change (run.outcome progress).2) := by
  simp only [tryFinally, outcome, tryFinally',
    MonadFinally.tryFinally', ExceptT.mk, Functor.map,
    ExceptT.map, bind, StateT.bind]
  rcases run progress with ⟨result, after⟩
  cases result <;> rfl

end Run

end Spreadsheet

------------------------------------------------------------
-- Inquiries One Behind The Other
------------------------------------------------------------

namespace Spreadsheet

namespace Inquiry

variable {α β γ : Type}

@[simp] theorem pure_eq_settled
    (value : α) :
    (pure value : Inquiry α) = settled (.ok value) := rfl

@[simp] theorem bind_eq_andThen
    (inquiry : Inquiry α)
    (follow : α → Inquiry β) :
    inquiry >>= follow = inquiry.andThen (onValue follow) :=
  rfl

@[simp] theorem andThen_settled
    (inquiry : Inquiry α) :
    inquiry.andThen settled = inquiry := by
  induction inquiry with
  | settled result => rfl
  | asking cell next ih =>
      simp only [andThen, ih]
  | drawing next ih =>
      simp only [andThen, ih]
  | dating next ih =>
      simp only [andThen, ih]
  | fitting length next ih =>
      simp only [andThen, ih]

theorem andThen_assoc
    (inquiry : Inquiry α)
    (first : Except Failure α → Inquiry β)
    (second : Except Failure β → Inquiry γ) :
    (inquiry.andThen first).andThen second =
      inquiry.andThen fun result =>
        (first result).andThen second := by
  induction inquiry with
  | settled result => rfl
  | asking cell next ih =>
      simp only [andThen, ih]
  | drawing next ih =>
      simp only [andThen, ih]
  | dating next ih =>
      simp only [andThen, ih]
  | fitting length next ih =>
      simp only [andThen, ih]

/- To go on with a value and do nothing else is no step. -/
theorem onValue_pure :
    onValue (fun value : α => settled (.ok value)) =
      settled := by
  funext result
  cases result <;> rfl

theorem onValue_andThen_onValue
    (first : α → Inquiry β)
    (second : β → Inquiry γ) :
    (fun result =>
        (onValue first result).andThen (onValue second)) =
      onValue fun value =>
        (first value).andThen (onValue second) := by
  funext result
  cases result <;> rfl

instance : LawfulMonad Inquiry := by
  refine LawfulMonad.mk' Inquiry ?_ ?_ ?_
  · intro α inquiry
    change inquiry.andThen (onValue fun value =>
      settled (.ok value)) = inquiry
    rw [onValue_pure, andThen_settled]
  · intro α β value follow
    rfl
  · intro α β γ inquiry first second
    simp only [bind_eq_andThen, andThen_assoc,
      onValue_andThen_onValue]

end Inquiry

end Spreadsheet

------------------------------------------------------------
-- Runs Of Inquiries
------------------------------------------------------------

namespace Spreadsheet

namespace Inquiry

variable {α β : Type}
variable (surroundings : Surroundings)
variable (resolve : Cell → Run Value)

@[simp] theorem outcome_run_settled
    (result : Except Failure α)
    (progress : Progress) :
    ((settled result).run surroundings resolve).outcome
        progress =
      (result, progress) := rfl

@[simp] theorem outcome_run_asking
    (cell : Cell)
    (next : Except Failure Value → Inquiry α)
    (progress : Progress) :
    ((asking cell next).run surroundings resolve).outcome
        progress =
      ((next ((resolve cell).outcome progress).1).run
        surroundings resolve).outcome
          ((resolve cell).outcome progress).2 := by
  simp [run, Run.outcome_bind]

@[simp] theorem outcome_run_drawing
    (next : Float → Inquiry α)
    (progress : Progress) :
    ((drawing next).run surroundings resolve).outcome
        progress =
      ((next (surroundings.random progress.drawn)).run
        surroundings resolve).outcome progress.afterDraw :=
  rfl

@[simp] theorem outcome_run_dating
    (next : Moment → Inquiry α)
    (progress : Progress) :
    ((dating next).run surroundings resolve).outcome
        progress =
      ((next (surroundings.clock progress.looked)).run
        surroundings resolve).outcome progress.afterLook :=
  rfl

@[simp] theorem outcome_run_fitting
    (length : Nat)
    (next : Bool → Inquiry α)
    (progress : Progress) :
    ((fitting length next).run surroundings resolve).outcome
        progress =
      ((next (surroundings.fits length)).run surroundings
        resolve).outcome progress :=
  rfl

/-
  What follows on an inquiry is run with its result where the
  inquiry left off.
-/
theorem outcome_andThen
    (inquiry : Inquiry α)
    (follow : Except Failure α → Inquiry β)
    (progress : Progress) :
    ((inquiry.andThen follow).run surroundings
        resolve).outcome progress =
      ((follow ((inquiry.run surroundings resolve).outcome
          progress).1).run surroundings resolve).outcome
        ((inquiry.run surroundings resolve).outcome
          progress).2 := by
  induction inquiry generalizing progress with
  | settled result => rfl
  | asking cell next ih =>
      simp only [andThen, outcome_run_asking, ih]
  | drawing next ih =>
      simp only [andThen, outcome_run_drawing, ih]
  | dating next ih =>
      simp only [andThen, outcome_run_dating, ih]
  | fitting length next ih =>
      simp only [andThen, outcome_run_fitting, ih]

end Inquiry

end Spreadsheet

------------------------------------------------------------
-- Bounds On Questions
------------------------------------------------------------

namespace Spreadsheet

namespace Inquiry

variable {α β : Type}

/-
  What follows on a result passes on the failures that cannot
  be caught.
-/
def PassesOn
    (follow : Except Failure α → Inquiry β) : Prop :=
  ∀ failure : Failure, failure.isCaught = false →
    follow (.error failure) = settled (.error failure)

/-
  Whatever the answers are, an inquiry asks only about some
  cells, passes on failures that cannot be caught and draws
  random numbers only if it may.
-/
inductive Within
    (cells : Cell → Prop)
    (random : Prop) :
    Inquiry α → Prop where
  | settled
      (result : Except Failure α) :
      Within cells random (.settled result)
  | asking
      {cell : Cell}
      {next : Except Failure Value → Inquiry α}
      (hCell : cells cell)
      (hPasses : PassesOn next)
      (hNext : ∀ answer,
        Within cells random (next answer)) :
      Within cells random (.asking cell next)
  | drawing
      {next : Float → Inquiry α}
      (hRandom : random)
      (hNext : ∀ number,
        Within cells random (next number)) :
      Within cells random (.drawing next)
  | dating
      {next : Moment → Inquiry α}
      (hNext : ∀ now, Within cells random (next now)) :
      Within cells random (.dating next)
  | fitting
      {length : Nat}
      {next : Bool → Inquiry α}
      (hNext : ∀ fits, Within cells random (next fits)) :
      Within cells random (.fitting length next)

/- Wider bounds hold where narrower ones do. -/
theorem Within.mono
    {cells others : Cell → Prop}
    {random chance : Prop}
    {inquiry : Inquiry α}
    (hWithin : inquiry.Within cells random)
    (hCells : ∀ cell, cells cell → others cell)
    (hRandom : random → chance) :
    inquiry.Within others chance := by
  induction hWithin with
  | settled result => exact .settled result
  | asking hCell hPasses hNext ih =>
      exact .asking (hCells _ hCell) hPasses ih
  | drawing hDraws hNext ih =>
      exact .drawing (hRandom hDraws) ih
  | dating hNext ih => exact .dating ih
  | fitting hNext ih => exact .fitting ih

/- Bounds on both parts bound one inquiry behind another. -/
theorem Within.andThen
    {cells : Cell → Prop}
    {random : Prop}
    {inquiry : Inquiry α}
    {follow : Except Failure α → Inquiry β}
    (hWithin : inquiry.Within cells random)
    (hPasses : PassesOn follow)
    (hFollow : ∀ result,
      (follow result).Within cells random) :
    (inquiry.andThen follow).Within cells random := by
  induction hWithin with
  | settled result => exact hFollow result
  | asking hCell hNextPasses hNext ih =>
      refine .asking hCell ?_ ih
      intro failure hUncaught
      simp only [hNextPasses failure hUncaught,
        Inquiry.andThen, hPasses failure hUncaught]
  | drawing hDraws hNext ih => exact .drawing hDraws ih
  | dating hNext ih => exact .dating ih
  | fitting hNext ih => exact .fitting ih

/- What follows on a value only passes on every failure. -/
theorem passesOn_onValue
    (follow : α → Inquiry β) :
    PassesOn (onValue follow) :=
  fun _ _ => rfl

/- A fallback is no answer to failures that pass. -/
theorem passesOn_rescue
    (fallback : Inquiry α) :
    PassesOn (rescue fallback) := by
  intro failure hUncaught
  simp [rescue, hUncaught]

theorem Within.bind
    {cells : Cell → Prop}
    {random : Prop}
    {inquiry : Inquiry α}
    {follow : α → Inquiry β}
    (hWithin : inquiry.Within cells random)
    (hFollow : ∀ value,
      (follow value).Within cells random) :
    (inquiry >>= follow).Within cells random := by
  apply hWithin.andThen (passesOn_onValue follow)
  intro result
  cases result with
  | ok value => exact hFollow value
  | error failure => exact .settled _

theorem Within.orElse
    {cells : Cell → Prop}
    {random : Prop}
    {inquiry fallback : Inquiry α}
    (hWithin : inquiry.Within cells random)
    (hFallback : fallback.Within cells random) :
    (inquiry.orElse fallback).Within cells random := by
  apply hWithin.andThen (passesOn_rescue fallback)
  intro result
  cases result with
  | ok value => exact .settled _
  | error failure =>
      by_cases hCaught : failure.isCaught = true
      · simpa only [rescue, hCaught, if_true] using hFallback
      · simp only [rescue, hCaught]
        exact .settled _

end Inquiry

end Spreadsheet

------------------------------------------------------------
-- Questions And States Of A Run
------------------------------------------------------------

namespace Spreadsheet

variable {α : Type}

/- A cell that is asked about and the progress at that time. -/
structure Visit where
  cell : Cell
  progress : Progress

namespace Inquiry

/- The questions about cells that a run asks, in order. -/
def questions
    (surroundings : Surroundings)
    (resolve : Cell → Run Value) :
    Inquiry α → Progress → List Visit
  | settled _, _ => []
  | asking cell next, progress =>
      let answered := (resolve cell).outcome progress
      ⟨cell, progress⟩ ::
        (next answered.1).questions surroundings resolve
          answered.2
  | drawing next, progress =>
      (next (surroundings.random progress.drawn)).questions
        surroundings resolve progress.afterDraw
  | dating next, progress =>
      (next (surroundings.clock progress.looked)).questions
        surroundings resolve progress.afterLook
  | fitting length next, progress =>
      (next (surroundings.fits length)).questions
        surroundings resolve progress
termination_by structural inquiry => inquiry

/- The states that a run goes through, the last one too. -/
def states
    (surroundings : Surroundings)
    (resolve : Cell → Run Value) :
    Inquiry α → Progress → List Progress
  | settled _, progress => [progress]
  | asking cell next, progress =>
      let answered := (resolve cell).outcome progress
      progress ::
        (next answered.1).states surroundings resolve
          answered.2
  | drawing next, progress =>
      progress ::
        (next (surroundings.random progress.drawn)).states
          surroundings resolve progress.afterDraw
  | dating next, progress =>
      progress ::
        (next (surroundings.clock progress.looked)).states
          surroundings resolve progress.afterLook
  | fitting length next, progress =>
      (next (surroundings.fits length)).states
        surroundings resolve progress
termination_by structural inquiry => inquiry

variable {surroundings : Surroundings}
variable {resolve : Cell → Run Value}

/- What follows is asked where the inquiry left off. -/
theorem questions_andThen
    {β : Type}
    (inquiry : Inquiry α)
    (follow : Except Failure α → Inquiry β)
    (progress : Progress) :
    (inquiry.andThen follow).questions surroundings resolve
        progress =
      inquiry.questions surroundings resolve progress ++
        (follow ((inquiry.run surroundings resolve).outcome
          progress).1).questions surroundings resolve
            ((inquiry.run surroundings resolve).outcome
              progress).2 := by
  induction inquiry generalizing progress with
  | settled result => rfl
  | asking cell next ih =>
      simp only [andThen, questions, ih, outcome_run_asking,
        List.cons_append]
  | drawing next ih =>
      simp only [andThen, questions, ih, outcome_run_drawing]
  | dating next ih =>
      simp only [andThen, questions, ih, outcome_run_dating]
  | fitting length next ih =>
      simp only [andThen, questions, ih, outcome_run_fitting]

/- A run keeps to the bounds on its questions. -/
theorem Within.of_mem_questions
    {cells : Cell → Prop}
    {random : Prop}
    {inquiry : Inquiry α}
    (hWithin : inquiry.Within cells random)
    {progress : Progress}
    {visit : Visit}
    (hVisit : visit ∈
      inquiry.questions surroundings resolve progress) :
    cells visit.cell := by
  induction hWithin generalizing progress with
  | settled result => simp [questions] at hVisit
  | asking hCell hPasses hNext ih =>
      rw [questions, List.mem_cons] at hVisit
      rcases hVisit with rfl | hVisit
      · exact hCell
      · exact ih _ hVisit
  | drawing hDraws hNext ih => exact ih _ hVisit
  | dating hNext ih => exact ih _ hVisit
  | fitting hNext ih => exact ih _ hVisit

/- A run ends in the last of its states. -/
theorem outcome_mem_states
    (inquiry : Inquiry α)
    (progress : Progress) :
    ((inquiry.run surroundings resolve).outcome progress).2 ∈
      inquiry.states surroundings resolve progress := by
  induction inquiry generalizing progress with
  | settled result => exact List.mem_singleton_self _
  | asking cell next ih =>
      rw [outcome_run_asking]
      exact List.mem_cons_of_mem _ (ih _ _)
  | drawing next ih =>
      exact List.mem_cons_of_mem _ (ih _ _)
  | dating next ih =>
      exact List.mem_cons_of_mem _ (ih _ _)
  | fitting length next ih => exact ih _ _

/- Each question is asked in a state of the run. -/
theorem progress_mem_states
    {inquiry : Inquiry α}
    {progress : Progress}
    {visit : Visit}
    (hVisit : visit ∈
      inquiry.questions surroundings resolve progress) :
    visit.progress ∈
      inquiry.states surroundings resolve progress := by
  induction inquiry generalizing progress with
  | settled result => simp [questions] at hVisit
  | asking cell next ih =>
      rw [questions, List.mem_cons] at hVisit
      rcases hVisit with rfl | hVisit
      · exact List.mem_cons_self
      · exact List.mem_cons_of_mem _ (ih _ hVisit)
  | drawing next ih =>
      exact List.mem_cons_of_mem _ (ih _ hVisit)
  | dating next ih =>
      exact List.mem_cons_of_mem _ (ih _ hVisit)
  | fitting length next ih => exact ih _ hVisit

end Inquiry

end Spreadsheet

------------------------------------------------------------
-- What Runs Preserve
------------------------------------------------------------

namespace Spreadsheet

variable {α : Type}

/-
  A property of progress that is not lost when a random number
  is drawn or the clock is read.
-/
structure Progress.IsPreserved
    (holds : Progress → Prop) : Prop where
  draw : ∀ {p}, holds p → holds p.afterDraw
  look : ∀ {p}, holds p → holds p.afterLook

namespace Inquiry

variable {holds : Progress → Prop}
variable {surroundings : Surroundings}
variable {resolve : Cell → Run Value}
variable {inquiry : Inquiry α}
variable {progress : Progress}

/-
  What each answer preserves holds at each state of a run.
  Only questions that the run asks have to be answered so.
-/
theorem states_preserve
    (hPreserved : Progress.IsPreserved holds)
    (hAnswers : ∀ visit ∈
      inquiry.questions surroundings resolve progress,
        holds visit.progress →
          holds ((resolve visit.cell).outcome
            visit.progress).2)
    (hProgress : holds progress)
    {state : Progress}
    (hState : state ∈
      inquiry.states surroundings resolve progress) :
    holds state := by
  induction inquiry generalizing progress with
  | settled result =>
      rw [states, List.mem_singleton] at hState
      rwa [hState]
  | asking cell next ih =>
      rw [states, List.mem_cons] at hState
      rcases hState with rfl | hState
      · exact hProgress
      · have hAfter :=
          hAnswers _ List.mem_cons_self hProgress
        refine ih _ ?_ hAfter hState
        exact fun visit hVisit =>
          hAnswers visit (List.mem_cons_of_mem _ hVisit)
  | drawing next ih =>
      rw [states, List.mem_cons] at hState
      rcases hState with rfl | hState
      · exact hProgress
      · exact ih _ hAnswers (hPreserved.draw hProgress)
          hState
  | dating next ih =>
      rw [states, List.mem_cons] at hState
      rcases hState with rfl | hState
      · exact hProgress
      · exact ih _ hAnswers (hPreserved.look hProgress)
          hState
  | fitting length next ih =>
      exact ih _ hAnswers hProgress hState

/- It holds at each question of the run. -/
theorem questions_preserve
    (hPreserved : Progress.IsPreserved holds)
    (hAnswers : ∀ visit ∈
      inquiry.questions surroundings resolve progress,
        holds visit.progress →
          holds ((resolve visit.cell).outcome
            visit.progress).2)
    (hProgress : holds progress)
    {visit : Visit}
    (hVisit : visit ∈
      inquiry.questions surroundings resolve progress) :
    holds visit.progress :=
  states_preserve hPreserved hAnswers hProgress
    (progress_mem_states hVisit)

/- It holds where the run ends. -/
theorem run_preserves
    (hPreserved : Progress.IsPreserved holds)
    (hAnswers : ∀ visit ∈
      inquiry.questions surroundings resolve progress,
        holds visit.progress →
          holds ((resolve visit.cell).outcome
            visit.progress).2)
    (hProgress : holds progress) :
    holds ((inquiry.run surroundings resolve).outcome
      progress).2 :=
  states_preserve hPreserved hAnswers hProgress
    (outcome_mem_states inquiry progress)

end Inquiry

end Spreadsheet

------------------------------------------------------------
-- What Runs Keep
------------------------------------------------------------

namespace Spreadsheet

variable {α : Type}

/-
  What is never lost on the way from one progress to another,
  also when a random number is drawn or the clock is read.
-/
structure Progress.IsKept
    (related : Progress → Progress → Prop) : Prop where
  refl : ∀ p, related p p
  trans : ∀ {p q r}, related p q → related q r → related p r
  draw : ∀ p, related p p.afterDraw
  look : ∀ p, related p p.afterLook

/- To be related to a progress is preserved. -/
theorem Progress.IsKept.preserved
    {related : Progress → Progress → Prop}
    (hKept : Progress.IsKept related)
    (progress : Progress) :
    Progress.IsPreserved (related progress) where
  draw hRelated := hKept.trans hRelated (hKept.draw _)
  look hRelated := hKept.trans hRelated (hKept.look _)

/- A run leaves progress behind that is related to its start. -/
def Run.Keeps
    (related : Progress → Progress → Prop)
    (run : Run α) : Prop :=
  ∀ p, related p (run.outcome p).2

namespace Inquiry

variable {related : Progress → Progress → Prop}
variable {surroundings : Surroundings}
variable {resolve : Cell → Run Value}

/- At each of its states a run has kept what answers keep. -/
theorem states_keep
    (hKept : Progress.IsKept related)
    (hResolve : ∀ cell, (resolve cell).Keeps related)
    {inquiry : Inquiry α}
    {progress state : Progress}
    (hState : state ∈
      inquiry.states surroundings resolve progress) :
    related progress state :=
  states_preserve (hKept.preserved progress)
    (fun visit _ hVisit =>
      hKept.trans hVisit (hResolve visit.cell _))
    (hKept.refl progress) hState

/- A run of an inquiry keeps what its answers keep. -/
theorem run_keeps
    (hKept : Progress.IsKept related)
    (hResolve : ∀ cell, (resolve cell).Keeps related)
    (inquiry : Inquiry α) :
    (inquiry.run surroundings resolve).Keeps related :=
  fun progress =>
    states_keep hKept hResolve
      (outcome_mem_states inquiry progress)

/- At each of its questions a run has kept what answers keep. -/
theorem questions_keep
    (hKept : Progress.IsKept related)
    (hResolve : ∀ cell, (resolve cell).Keeps related)
    {inquiry : Inquiry α}
    {progress : Progress}
    {visit : Visit}
    (hVisit : visit ∈
      inquiry.questions surroundings resolve progress) :
    related progress visit.progress :=
  states_keep hKept hResolve (progress_mem_states hVisit)

end Inquiry

end Spreadsheet

------------------------------------------------------------
-- Runs That Agree
------------------------------------------------------------

namespace Spreadsheet

variable {α : Type}

/- Two outcomes have one result and related progress. -/
def Agree
    (related : Progress → Progress → Prop)
    (left right : Except Failure α × Progress) : Prop :=
  left.1 = right.1 ∧ related left.2 right.2

/-
  Two surroundings agree if they answer alike wherever two
  runs stand in related progress and their memories have place
  for the same.  Random numbers matter only where they may be
  drawn.
-/
structure Surroundings.Agree
    (related : Progress → Progress → Prop)
    (random : Prop)
    (left right : Surroundings) : Prop where
  random : random → ∀ {p q}, related p q →
    left.random p.drawn = right.random q.drawn ∧
      related p.afterDraw q.afterDraw
  clock : ∀ {p q}, related p q →
    left.clock p.looked = right.clock q.looked ∧
      related p.afterLook q.afterLook
  fits : left.fits = right.fits

/- Surroundings in which nothing changes. -/
def Surroundings.still : Surroundings where
  random _ := 0
  clock _ := ⟨⟨2024, 3, 15⟩, 9, 30, 5⟩

/- Surroundings agree with themselves. -/
theorem Surroundings.Agree.refl
    (surroundings : Surroundings)
    (random : Prop) :
    surroundings.Agree Eq random surroundings where
  random _ _ _ hSame := by
    subst hSame
    exact ⟨rfl, rfl⟩
  clock hSame := by
    subst hSame
    exact ⟨rfl, rfl⟩
  fits := rfl

/-
  Two runs of one inquiry agree if the questions that the
  first one asks are answered alike in both.
-/
theorem Inquiry.run_agree
    {related : Progress → Progress → Prop}
    {cells : Cell → Prop}
    {random : Prop}
    {left right : Surroundings}
    {resolve resolve' : Cell → Run Value}
    {inquiry : Inquiry α}
    (hSurroundings : left.Agree related random right)
    (hWithin : inquiry.Within cells random)
    {p q : Progress}
    (hRelated : related p q)
    (hAnswers :
      ∀ visit ∈ inquiry.questions left resolve p,
        cells visit.cell →
        ∀ q, related visit.progress q →
          Agree related
            ((resolve visit.cell).outcome visit.progress)
            ((resolve' visit.cell).outcome q)) :
    Agree related
      ((inquiry.run left resolve).outcome p)
      ((inquiry.run right resolve').outcome q) := by
  induction hWithin generalizing p q with
  | settled result => exact ⟨rfl, hRelated⟩
  | asking hCell hPasses hNext ih =>
      rcases hAnswers _ List.mem_cons_self hCell q hRelated
        with ⟨hAnswer, hAfter⟩
      rw [outcome_run_asking, outcome_run_asking, ← hAnswer]
      apply ih _ hAfter
      intro visit hVisit
      exact hAnswers visit (List.mem_cons_of_mem _ hVisit)
  | drawing hDraws hNext ih =>
      rcases hSurroundings.random hDraws hRelated with
        ⟨hRandom, hAfter⟩
      rw [outcome_run_drawing, outcome_run_drawing, ← hRandom]
      exact ih _ hAfter hAnswers
  | dating hNext ih =>
      rcases hSurroundings.clock hRelated with
        ⟨hNow, hAfter⟩
      rw [outcome_run_dating, outcome_run_dating, ← hNow]
      exact ih _ hAfter hAnswers
  | fitting hNext ih =>
      rw [outcome_run_fitting, outcome_run_fitting,
        ← hSurroundings.fits]
      exact ih _ hRelated hAnswers

/-
  Each question of the second run is then asked by the first
  one too, from related progress.
-/
theorem Inquiry.questions_agree
    {related : Progress → Progress → Prop}
    {cells : Cell → Prop}
    {random : Prop}
    {left right : Surroundings}
    {resolve resolve' : Cell → Run Value}
    {inquiry : Inquiry α}
    (hSurroundings : left.Agree related random right)
    (hWithin : inquiry.Within cells random)
    {p q : Progress}
    (hRelated : related p q)
    (hAnswers :
      ∀ visit ∈ inquiry.questions left resolve p,
        cells visit.cell →
        ∀ q, related visit.progress q →
          Agree related
            ((resolve visit.cell).outcome visit.progress)
            ((resolve' visit.cell).outcome q))
    {visit : Visit}
    (hVisit : visit ∈ inquiry.questions right resolve' q) :
    ∃ other ∈ inquiry.questions left resolve p,
      other.cell = visit.cell ∧
        related other.progress visit.progress := by
  induction hWithin generalizing p q with
  | settled result => simp [questions] at hVisit
  | @asking cell next hCell hPasses hNext ih =>
      rcases hAnswers _ List.mem_cons_self hCell q hRelated
        with ⟨hAnswer, hAfter⟩
      rw [questions, List.mem_cons] at hVisit
      rcases hVisit with rfl | hVisit
      · exact ⟨⟨cell, p⟩, List.mem_cons_self, rfl, hRelated⟩
      · rw [← hAnswer] at hVisit
        rcases ih _ hAfter
            (fun visit hVisit =>
              hAnswers visit (List.mem_cons_of_mem _ hVisit))
            hVisit with ⟨other, hOther, hPlace⟩
        exact ⟨other, List.mem_cons_of_mem _ hOther, hPlace⟩
  | drawing hDraws hNext ih =>
      rcases hSurroundings.random hDraws hRelated with
        ⟨hRandom, hAfter⟩
      rw [questions, ← hRandom] at hVisit
      exact ih _ hAfter hAnswers hVisit
  | dating hNext ih =>
      rcases hSurroundings.clock hRelated with
        ⟨hNow, hAfter⟩
      rw [questions, ← hNow] at hVisit
      exact ih _ hAfter hAnswers hVisit
  | fitting hNext ih =>
      rw [questions, ← hSurroundings.fits] at hVisit
      exact ih _ hRelated hAnswers hVisit

end Spreadsheet
