import Spreadsheet.Proofs.Sheet.Stop

/-
  What evaluations gain.

  A value that is known stays known, and a cell that is busy
  does not become known before its own evaluation ends.  So
  where values are kept, every evaluation that comes to a
  value finds it known afterwards, and no cell comes to two
  values, not even inside its own evaluation.

  Key definitions include:
    * `Spreadsheet.Progress.Retains`
    * `Spreadsheet.Progress.Gains`
    * `Spreadsheet.Chained`

  Main results:
    * `Spreadsheet.Sheet.evaluateCell_gains`
    * `Spreadsheet.Sheet.retains_of_mem_visits`
    * `Spreadsheet.Sheet.leftBy_retains_of_mem_visits`
    * `Spreadsheet.Sheet.visits_retain`
-/

------------------------------------------------------------
-- Visits One Behind The Other
------------------------------------------------------------

namespace Spreadsheet

/-
  Visits that are made one behind the other on the way from
  one progress to another.  From what a visit leaves behind to
  the next one all is related.
-/
def Chained
    (related : Progress → Progress → Prop)
    (resolve : Cell → Run Value) :
    List Visit → (before after : Progress) → Prop
  | [], before, after => related before after
  | visit :: rest, before, after =>
      related before visit.progress ∧
        Chained related resolve rest
          ((resolve visit.cell).outcome visit.progress).2 after

namespace Chained

variable {related : Progress → Progress → Prop}
variable {resolve : Cell → Run Value}
variable {visits others : List Visit}
variable {p q r : Progress}

/- A chain may begin earlier. -/
theorem from_earlier
    (hKept : Progress.IsKept related)
    (hEarlier : related p q)
    (hChained : Chained related resolve visits q r) :
    Chained related resolve visits p r := by
  cases visits with
  | nil => exact hKept.trans hEarlier hChained
  | cons visit rest =>
      exact ⟨hKept.trans hEarlier hChained.1, hChained.2⟩

/- A chain goes on where another one ends. -/
theorem append
    (hKept : Progress.IsKept related)
    (hFirst : Chained related resolve visits p q)
    (hRest : Chained related resolve others q r) :
    Chained related resolve (visits ++ others) p r := by
  induction visits generalizing p with
  | nil => exact hRest.from_earlier hKept hFirst
  | cons visit rest ih => exact ⟨hFirst.1, ih hFirst.2⟩

/- A whole chain relates its beginning to its end. -/
theorem ends
    (hKept : Progress.IsKept related)
    (hResolve : ∀ cell, (resolve cell).Keeps related)
    (hChained : Chained related resolve visits p q) :
    related p q := by
  induction visits generalizing p with
  | nil => exact hChained
  | cons visit rest ih =>
      exact hKept.trans hChained.1
        (hKept.trans (hResolve visit.cell _) (ih hChained.2))

/- Each visit of a chain is related to its beginning. -/
theorem before
    (hKept : Progress.IsKept related)
    (hResolve : ∀ cell, (resolve cell).Keeps related)
    (hChained : Chained related resolve visits p q)
    {visit : Visit}
    (hVisit : visit ∈ visits) :
    related p visit.progress := by
  induction visits generalizing p with
  | nil => cases hVisit
  | cons first rest ih =>
      rcases List.mem_cons.mp hVisit with rfl | hRest
      · exact hChained.1
      · exact hKept.trans hChained.1
          (hKept.trans (hResolve first.cell _)
            (ih hChained.2 hRest))

/- What each visit leaves behind is related to the end. -/
theorem after
    (hKept : Progress.IsKept related)
    (hResolve : ∀ cell, (resolve cell).Keeps related)
    (hChained : Chained related resolve visits p q)
    {visit : Visit}
    (hVisit : visit ∈ visits) :
    related
      ((resolve visit.cell).outcome visit.progress).2 q := by
  induction visits generalizing p with
  | nil => cases hVisit
  | cons first rest ih =>
      rcases List.mem_cons.mp hVisit with rfl | hRest
      · exact hChained.2.ends hKept hResolve
      · exact ih hChained.2 hRest

/- What a visit leaves behind is related to later visits. -/
theorem pairwise
    (hKept : Progress.IsKept related)
    (hResolve : ∀ cell, (resolve cell).Keeps related)
    (hChained : Chained related resolve visits p q) :
    visits.Pairwise fun first second =>
      related
        ((resolve first.cell).outcome first.progress).2
        second.progress := by
  induction visits generalizing p with
  | nil => exact List.Pairwise.nil
  | cons visit rest ih =>
      exact List.pairwise_cons.mpr
        ⟨fun _ hSecond =>
          hChained.2.before hKept hResolve hSecond,
          ih hChained.2⟩

/- The questions of a run are asked one behind the other. -/
theorem questions
    {α : Type}
    (hKept : Progress.IsKept related)
    (surroundings : Surroundings)
    (inquiry : Inquiry α)
    (p : Progress) :
    Chained related resolve
      (inquiry.questions surroundings resolve p) p
      ((inquiry.run surroundings resolve).outcome p).2 := by
  induction inquiry generalizing p with
  | settled result => exact hKept.refl p
  | asking cell next ih =>
      rw [Inquiry.outcome_run_asking]
      exact ⟨hKept.refl p, ih _ _⟩
  | drawing next ih =>
      exact (ih _ _).from_earlier hKept (hKept.draw p)
  | dating next ih =>
      exact (ih _ _).from_earlier hKept (hKept.look p)
  | fitting length next ih => exact ih _ _

end Chained

end Spreadsheet

------------------------------------------------------------
-- Gains
------------------------------------------------------------

namespace Spreadsheet

namespace Progress

/- What is known at one progress is known at another one. -/
def Retains
    (before after : Progress) : Prop :=
  ∀ (cell : Cell) (value : Value),
    before.known[cell]? = some value →
      after.known[cell]? = some value

theorem Retains.refl
    (progress : Progress) :
    progress.Retains progress :=
  fun _ _ hKnown => hKnown

theorem Retains.trans
    {p q r : Progress}
    (hFirst : p.Retains q)
    (hSecond : q.Retains r) :
    p.Retains r :=
  fun cell value hKnown =>
    hSecond cell value (hFirst cell value hKnown)

/-
  With the same cells in progress more values are known, but
  none of a cell in progress.
-/
structure Gains
    (before after : Progress) : Prop where
  same_guard : SameGuard before after
  retains : before.Retains after
  unknown : ∀ cell ∈ before.busy,
    before.known[cell]? = none → after.known[cell]? = none

theorem gains_isKept : IsKept Gains where
  refl p :=
    ⟨sameGuard_isKept.refl p, .refl p, fun _ _ h => h⟩
  trans {p q r} hFirst hSecond :=
    {
      same_guard :=
        sameGuard_isKept.trans hFirst.same_guard
          hSecond.same_guard
      retains := hFirst.retains.trans hSecond.retains
      unknown := by
        intro cell hBusy hUnknown
        refine hSecond.unknown cell ?_
          (hFirst.unknown cell hBusy hUnknown)
        rw [hFirst.same_guard.busy_eq]
        exact hBusy
    }
  draw p :=
    ⟨sameGuard_isKept.draw p, fun _ _ h => h, fun _ _ h => h⟩
  look p :=
    ⟨sameGuard_isKept.look p, fun _ _ h => h, fun _ _ h => h⟩

/- A cell that is entered does not become known inside. -/
theorem Gains.unknown_of_enter
    {before after : Progress}
    {cell : Cell}
    (hUnknown : before.known[cell]? = none)
    (hInside : (before.enter cell).Gains after) :
    after.known[cell]? = none := by
  apply hInside.unknown cell ?_ hUnknown
  change cell ∈ before.busy.insert cell
  exact Std.ExtTreeSet.mem_insert_self

end Progress

namespace Sheet

variable (sheet : Sheet)

/- At the end of an evaluation only its cell becomes known. -/
theorem known_closed_of_ne
    {cell other : Cell}
    (hOther : other ≠ cell)
    (result : Except Failure Value)
    (progress : Progress) :
    (sheet.closed cell result progress).known[other]? =
      progress.known[other]? := by
  unfold closed
  split
  · split
    · rename_i value _
      change (progress.known.insert cell value)[other]? = _
      rw [Std.TreeMap.getElem?_insert, if_neg]
      intro hSame
      exact hOther (Std.LawfulEqCmp.eq_of_compare hSame).symm
    · rfl
  · rfl

/- Where values are kept, the value of a cell is known then. -/
theorem known_closed_self
    (hMemoize : sheet.settings.memoize = true)
    (cell : Cell)
    (value : Value)
    (progress : Progress) :
    (sheet.closed cell (.ok value) progress).known[cell]? =
      some value := by
  simp only [closed, hMemoize, if_true]
  exact Std.TreeMap.getElem?_insert_self

/- What is gained inside an evaluation is gained by it. -/
theorem gains_closed
    {cell : Cell}
    (result : Except Failure Value)
    {before after : Progress}
    (hOpens : before.Opens cell)
    (hInside : (before.enter cell).Gains after) :
    before.Gains (sheet.closed cell result after) where
  same_guard :=
    sheet.sameGuard_closed result hOpens.2 hInside.same_guard
  retains := by
    intro other value hKnown
    have hOther : other ≠ cell := by
      rintro rfl
      rw [hOpens.1] at hKnown
      cases hKnown
    rw [sheet.known_closed_of_ne hOther]
    exact hInside.retains other value hKnown
  unknown := by
    intro other hBusy hUnknown
    have hOther : other ≠ cell := by
      rintro rfl
      exact hOpens.2 hBusy
    rw [sheet.known_closed_of_ne hOther]
    refine hInside.unknown other ?_ hUnknown
    change other ∈ before.busy.insert cell
    exact Std.ExtTreeSet.mem_insert.mpr (.inr hBusy)

/- Evaluations only gain values. -/
theorem evaluateCell_gains
    (cell : Cell) :
    (sheet.evaluateCell cell).Keeps Progress.Gains :=
  sheet.evaluateCell_keeps Progress.gains_isKept
    (fun _ _ _ result hOpens hInside =>
      sheet.gains_closed result hOpens hInside)
    cell

end Sheet

end Spreadsheet

------------------------------------------------------------
-- Visits On The Way
------------------------------------------------------------

namespace Spreadsheet

namespace Sheet

/- What a visit leaves behind. -/
def leftBy
    (sheet : Sheet)
    (visit : Visit) :
    Progress :=
  ((sheet.evaluateCell visit.cell).outcome visit.progress).2

variable {sheet : Sheet}
variable {visit other inner : Visit}

/- A visit retains what is known. -/
theorem retains_leftBy
    (visit : Visit) :
    visit.progress.Retains (sheet.leftBy visit) :=
  (sheet.evaluateCell_gains visit.cell visit.progress).retains

/- Inner visits are made one behind the other. -/
theorem chained_innerVisits
    (hBegins : sheet.Begins visit) :
    Chained Progress.Gains sheet.evaluateCell
      (sheet.innerVisits visit)
      (visit.progress.enter visit.cell)
      ((sheet.resolve (sheet.inquiry visit.cell)).outcome
        (visit.progress.enter visit.cell)).2 := by
  rw [innerVisits_eq hBegins]
  exact .questions Progress.gains_isKept sheet.surroundings
    (sheet.inquiry visit.cell) _

/-
  What is known after an inner visit is known after the outer
  one, and it is not the value of the outer cell.
-/
theorem known_of_mem_innerVisits
    (hInner : inner ∈ sheet.innerVisits visit)
    {cell : Cell}
    {value : Value}
    (hKnown : (sheet.leftBy inner).known[cell]? =
      some value) :
    (sheet.leftBy visit).known[cell]? = some value := by
  have hBegins := (sameGuard_of_mem_innerVisits hInner).1
  have hChained := chained_innerVisits hBegins
  have hAfter :=
    (hChained.after Progress.gains_isKept
      sheet.evaluateCell_gains hInner).retains cell value hKnown
  have hUnknown :=
    (hChained.ends Progress.gains_isKept
      sheet.evaluateCell_gains).unknown_of_enter hBegins.1.1
  have hOther : cell ≠ visit.cell := by
    rintro rfl
    rw [hUnknown] at hAfter
    cases hAfter
  rw [leftBy, sheet.outcome_begun hBegins.1 hBegins.2,
    sheet.known_closed_of_ne hOther]
  exact hAfter

/- A visit on the way knows what was known before. -/
theorem retains_of_mem_visits
    (hOther : other ∈ sheet.visits visit) :
    visit.progress.Retains other.progress := by
  refine visits_induction
    (motive := fun other =>
      visit.progress.Retains other.progress)
    ?_ (.refl _) hOther
  intro middle inner hMiddle hInner
  have hBegins := (sameGuard_of_mem_innerVisits hInner).1
  exact hMiddle.trans
    ((chained_innerVisits hBegins).before
      Progress.gains_isKept sheet.evaluateCell_gains
        hInner).retains

/- What is known after a visit on the way stays known. -/
theorem leftBy_retains_of_mem_visits
    (hOther : other ∈ sheet.visits visit) :
    (sheet.leftBy other).Retains (sheet.leftBy visit) := by
  refine visits_induction
    (motive := fun other =>
      (sheet.leftBy other).Retains (sheet.leftBy visit))
    ?_ (.refl _) hOther
  intro middle inner hMiddle hInner cell value hKnown
  exact hMiddle cell value
    (known_of_mem_innerVisits hInner hKnown)

/- Where values are kept, a visit leaves its value known. -/
theorem known_leftBy
    (hMemoize : sheet.settings.memoize = true)
    {value : Value}
    (hValue : sheet.result visit = .ok value) :
    (sheet.leftBy visit).known[visit.cell]? = some value := by
  rcases sheet.known_or_stops_or_begins visit with
    ⟨other, hKnown, hResult⟩ | ⟨failure, -, hResult⟩ | hBegins
  · rw [hValue] at hResult
    cases hResult
    rw [leftBy, sheet.outcome_known hKnown]
    exact hKnown
  · rw [hValue] at hResult
    cases hResult
  · rw [result_of_begins hBegins] at hValue
    rw [leftBy, sheet.outcome_begun hBegins.1 hBegins.2]
    simp only [hValue]
    exact sheet.known_closed_self hMemoize _ _ _

/- All visits of a chain, in order, retain what is known. -/
theorem retain_of_chained
    {asked : List Visit}
    {before after : Progress}
    (hChained : Chained Progress.Gains sheet.evaluateCell
      asked before after)
    (hEach : ∀ visit ∈ asked,
      (sheet.visits visit).Pairwise fun first second =>
        first.progress.Retains second.progress) :
    (asked.flatMap sheet.visits).Pairwise fun first second =>
      first.progress.Retains second.progress := by
  rw [List.pairwise_flatMap]
  refine ⟨hEach, ?_⟩
  refine (hChained.pairwise Progress.gains_isKept
    sheet.evaluateCell_gains).imp ?_
  intro earlier later hBetween first hFirst second hSecond
  have hLeft : first.progress.Retains (sheet.leftBy earlier) :=
    (retains_leftBy first).trans
      (leftBy_retains_of_mem_visits hFirst)
  exact (hLeft.trans hBetween.retains).trans
    (retains_of_mem_visits hSecond)

/- The visits on the way come behind the visit itself. -/
theorem visits_eq
    (sheet : Sheet)
    (visit : Visit) :
    sheet.visits visit =
      visit :: (sheet.innerVisits visit).flatMap
        sheet.visits := by
  unfold visits
  cases hDepth :
      sheet.settings.maxDepth -
        visit.progress.path.length with
  | zero =>
      have hNone : sheet.innerVisits visit = [] := by
        apply innerVisits_eq_nil
        intro hBegins
        have hRoom := hBegins.2
        omega
      rw [visitsWithin, hNone, List.flatMap_nil]
  | succ depth =>
      rw [visitsWithin]
      congr 1
      apply List.flatMap_congr
      intro inner hInner
      rw [path_of_mem_innerVisits hInner, List.length_cons,
        Nat.sub_add_eq, hDepth, Nat.add_sub_cancel]

/-
  All visits on the way, in order, retain what is known, each
  from those before it.
-/
theorem visits_retain
    (sheet : Sheet)
    (visit : Visit) :
    (sheet.visits visit).Pairwise fun first second =>
      first.progress.Retains second.progress := by
  induction visit using sheet.visit_induction with
  | hVisit visit ih =>
      have hBehind :
          ∀ other ∈ (sheet.innerVisits visit).flatMap
              sheet.visits,
            visit.progress.Retains other.progress := by
        intro other hOther
        have hMember : other ∈ sheet.visits visit := by
          rw [visits_eq]
          exact List.mem_cons_of_mem _ hOther
        exact retains_of_mem_visits hMember
      rw [visits_eq, List.pairwise_cons]
      refine ⟨hBehind, ?_⟩
      by_cases hBegins : sheet.Begins visit
      · exact retain_of_chained (chained_innerVisits hBegins)
          ih
      · rw [innerVisits_eq_nil hBegins]
        exact List.Pairwise.nil

end Sheet

end Spreadsheet
