import Spreadsheet.Proofs.Sheet.Evaluation

/-
  The guard against circles.

  The cells that are being evaluated are held as a set, in
  which a cell is looked up, and as a path, whose last cell is
  taken off when an evaluation ends.  The two always hold the
  same cells, each once and never more than the settings
  allow, at every state of every evaluation that is made on
  the way.

  Key definitions include:
    * `Spreadsheet.Sheet.visits`
    * `Spreadsheet.Sheet.moments`
    * `Spreadsheet.Progress.Guarded`
    * `Spreadsheet.Progress.Idle`

  Main results:
    * `Spreadsheet.Sheet.mem_visits_iff`
    * `Spreadsheet.Sheet.visit_induction`
    * `Spreadsheet.Sheet.guarded_of_mem_visits`
    * `Spreadsheet.Sheet.guarded_of_mem_moments`
-/

------------------------------------------------------------
-- Visits
------------------------------------------------------------

namespace Spreadsheet

namespace Sheet

/- The evaluation of a cell begins at a visit. -/
def Begins
    (sheet : Sheet)
    (visit : Visit) : Prop :=
  visit.progress.Opens visit.cell ∧
    visit.progress.path.length < sheet.settings.maxDepth

instance
    (sheet : Sheet)
    (visit : Visit) :
    Decidable (sheet.Begins visit) := by
  unfold Begins
  infer_instance

/- The visits that the evaluation of a cell makes itself. -/
def innerVisits
    (sheet : Sheet)
    (visit : Visit) :
    List Visit :=
  if sheet.Begins visit then
    (sheet.inquiry visit.cell).questions sheet.surroundings
      sheet.evaluateCell (visit.progress.enter visit.cell)
  else
    []

/- Where an evaluation begins, visits are its questions. -/
theorem innerVisits_eq
    {sheet : Sheet}
    {visit : Visit}
    (hBegins : sheet.Begins visit) :
    sheet.innerVisits visit =
      (sheet.inquiry visit.cell).questions sheet.surroundings
        sheet.evaluateCell
        (visit.progress.enter visit.cell) :=
  if_pos hBegins

/- Where no evaluation begins, no visit is made. -/
theorem innerVisits_eq_nil
    {sheet : Sheet}
    {visit : Visit}
    (hBegins : ¬sheet.Begins visit) :
    sheet.innerVisits visit = [] :=
  if_neg hBegins

/- A visit and all visits on the way, to some depth. -/
def visitsWithin
    (sheet : Sheet) :
    (depth : Nat) → Visit → List Visit
  | 0, visit => [visit]
  | depth + 1, visit =>
      visit ::
        (sheet.innerVisits visit).flatMap
          (sheet.visitsWithin depth)

/- A visit and all visits on the way. -/
def visits
    (sheet : Sheet)
    (visit : Visit) :
    List Visit :=
  sheet.visitsWithin
    (sheet.settings.maxDepth - visit.progress.path.length)
    visit

variable {sheet : Sheet}

/- An inner visit finds the visited cell on the path. -/
theorem sameGuard_of_mem_innerVisits
    {visit inner : Visit}
    (hInner : inner ∈ sheet.innerVisits visit) :
    sheet.Begins visit ∧
      SameGuard (visit.progress.enter visit.cell)
        inner.progress := by
  unfold innerVisits at hInner
  split at hInner
  · rename_i hBegins
    exact ⟨hBegins,
      Inquiry.questions_keep sameGuard_isKept
        sheet.evaluateCell_keeps_guard hInner⟩
  · simp at hInner

theorem path_of_mem_innerVisits
    {visit inner : Visit}
    (hInner : inner ∈ sheet.innerVisits visit) :
    inner.progress.path =
      visit.cell :: visit.progress.path :=
  (sameGuard_of_mem_innerVisits hInner).2.path_eq

/- Where values are not kept, inner visits know no more. -/
theorem sameKnown_of_mem_innerVisits
    (hMemoize : sheet.settings.memoize = false)
    {visit inner : Visit}
    (hInner : inner ∈ sheet.innerVisits visit) :
    SameKnown visit.progress inner.progress := by
  have hBegins := (sameGuard_of_mem_innerVisits hInner).1
  rw [innerVisits_eq hBegins] at hInner
  have hKnown :=
    Inquiry.questions_keep sameKnown_isKept
      (sheet.evaluateCell_keeps_known hMemoize) hInner
  exact hKnown

/- The visits on the way are those of inner visits. -/
theorem mem_visits_iff
    (visit other : Visit) :
    other ∈ sheet.visits visit ↔
      other = visit ∨
        ∃ inner ∈ sheet.innerVisits visit,
          other ∈ sheet.visits inner := by
  unfold visits
  cases hDepth :
      sheet.settings.maxDepth -
        visit.progress.path.length with
  | zero =>
      have hNone : sheet.innerVisits visit = [] := by
        apply innerVisits_eq_nil
        intro hBegins
        have hRoom := hBegins.2
        omega
      simp [visitsWithin, hNone]
  | succ depth =>
      rw [visitsWithin, List.mem_cons, List.mem_flatMap]
      apply or_congr_right
      apply exists_congr
      intro inner
      apply and_congr_right
      intro hInner
      have hInnerDepth :
          sheet.settings.maxDepth -
            inner.progress.path.length = depth := by
        rw [path_of_mem_innerVisits hInner,
          List.length_cons]
        omega
      rw [hInnerDepth]

theorem mem_visits_self
    (visit : Visit) :
    visit ∈ sheet.visits visit :=
  (mem_visits_iff visit visit).mpr (Or.inl rfl)

/-
  What holds of a visit and is passed on to inner visits holds
  of all visits on the way.
-/
theorem visits_induction
    {motive : Visit → Prop}
    (hInner : ∀ visit inner,
      motive visit →
      inner ∈ sheet.innerVisits visit →
        motive inner)
    {visit other : Visit}
    (hVisit : motive visit)
    (hOther : other ∈ sheet.visits visit) :
    motive other := by
  unfold visits at hOther
  generalize sheet.settings.maxDepth -
    visit.progress.path.length = depth at hOther
  induction depth generalizing visit with
  | zero =>
      rw [visitsWithin, List.mem_singleton] at hOther
      rwa [hOther]
  | succ depth ih =>
      rw [visitsWithin, List.mem_cons,
        List.mem_flatMap] at hOther
      rcases hOther with rfl | ⟨inner, hMember, hOther⟩
      · exact hVisit
      · exact ih (hInner visit inner hVisit hMember) hOther

/- What is on the way from a visit on the way is on the way. -/
theorem visits_subset
    {visit other : Visit}
    (hOther : other ∈ sheet.visits visit) :
    sheet.visits other ⊆ sheet.visits visit := by
  refine visits_induction
    (motive := fun other =>
      sheet.visits other ⊆ sheet.visits visit)
    ?_ (List.Subset.refl _) hOther
  intro middle inner hMiddle hInner third hThird
  exact hMiddle
    ((mem_visits_iff middle third).mpr
      (Or.inr ⟨inner, hInner, hThird⟩))

/- The inner visits of a visit on the way are on the way. -/
theorem mem_visits_of_mem_innerVisits
    {visit other inner : Visit}
    (hOther : other ∈ sheet.visits visit)
    (hInner : inner ∈ sheet.innerVisits other) :
    inner ∈ sheet.visits visit :=
  visits_subset hOther
    ((mem_visits_iff other inner).mpr
      (Or.inr ⟨inner, hInner, mem_visits_self inner⟩))

/-
  What holds of a visit if it holds of its inner visits holds
  of every visit.
-/
theorem visit_induction
    {motive : Visit → Prop}
    (hVisit : ∀ visit,
      (∀ inner ∈ sheet.innerVisits visit, motive inner) →
        motive visit)
    (visit : Visit) :
    motive visit := by
  have hClosed :
      ∀ visit, ¬sheet.Begins visit → motive visit := by
    intro visit hBegins
    apply hVisit
    rw [innerVisits_eq_nil hBegins]
    simp
  rcases visit with ⟨cell, progress⟩
  induction cell, progress using sheet.evaluateCell_cases with
  | known cell progress value hKnown =>
      apply hClosed
      rintro ⟨⟨hNone, -⟩, -⟩
      rw [hKnown] at hNone
      cases hNone
  | busy cell progress hNone hBusy =>
      exact hClosed _ fun hBegins => hBegins.1.2 hBusy
  | full cell progress hOpens hFull =>
      exact hClosed _ fun hBegins =>
        absurd hBegins.2 (Nat.not_lt_of_le hFull)
  | begun cell progress hOpens hRoom ih =>
      apply hVisit
      intro inner hInner
      exact ih inner.cell inner.progress
        (path_of_mem_innerVisits hInner)

/-
  The states that an evaluation goes through itself, from the
  visit of the cell to what is left behind.
-/
def moments
    (sheet : Sheet)
    (visit : Visit) :
    List Progress :=
  if sheet.Begins visit then
    visit.progress ::
      (sheet.inquiry visit.cell).states sheet.surroundings
        sheet.evaluateCell
        (visit.progress.enter visit.cell) ++
      [((sheet.evaluateCell visit.cell).outcome
        visit.progress).2]
  else
    [visit.progress]

end Sheet

end Spreadsheet

------------------------------------------------------------
-- Guarded Progress
------------------------------------------------------------

namespace Spreadsheet

namespace Progress

/-
  The busy cells are those on the path, which has each cell
  once and no more cells than allowed.
-/
structure Guarded
    (limit : Nat)
    (progress : Progress) : Prop where
  mem_busy_iff : ∀ cell,
    cell ∈ progress.busy ↔ cell ∈ progress.path
  nodup : progress.path.Nodup
  length_le : progress.path.length ≤ limit

namespace Guarded

variable {limit : Nat}
variable {progress : Progress}

theorem start : Progress.start.Guarded limit where
  mem_busy_iff cell := by simp [Progress.start]
  nodup := List.nodup_nil
  length_le := Nat.zero_le limit

/- A cell that is not busy can go onto a path with room. -/
theorem enter
    (hGuarded : progress.Guarded limit)
    {cell : Cell}
    (hBusy : cell ∉ progress.busy)
    (hRoom : progress.path.length < limit) :
    (progress.enter cell).Guarded limit where
  mem_busy_iff other := by
    change other ∈ progress.busy.insert cell ↔
      other ∈ cell :: progress.path
    rw [Std.ExtTreeSet.mem_insert, List.mem_cons,
      hGuarded.mem_busy_iff,
      Std.LawfulEqCmp.compare_eq_iff_eq, eq_comm]
  nodup :=
    List.nodup_cons.mpr
      ⟨fun hPath => hBusy
        ((hGuarded.mem_busy_iff cell).mpr hPath),
        hGuarded.nodup⟩
  length_le := hRoom

theorem of_sameGuard
    {after : Progress}
    (hGuarded : progress.Guarded limit)
    (hSame : SameGuard progress after) :
    after.Guarded limit where
  mem_busy_iff cell := by
    rw [hSame.busy_eq, hSame.path_eq]
    exact hGuarded.mem_busy_iff cell
  nodup := by
    rw [hSame.path_eq]
    exact hGuarded.nodup
  length_le := by
    rw [hSame.path_eq]
    exact hGuarded.length_le

end Guarded

/- No evaluation is in progress. -/
structure Idle
    (progress : Progress) : Prop where
  path_eq : progress.path = []
  busy_eq : progress.busy = ∅

namespace Idle

variable {progress : Progress}

theorem guarded
    (hIdle : progress.Idle)
    (limit : Nat) :
    progress.Guarded limit :=
  Guarded.start.of_sameGuard ⟨hIdle.path_eq, hIdle.busy_eq⟩

theorem of_sameGuard
    {after : Progress}
    (hIdle : progress.Idle)
    (hSame : SameGuard progress after) :
    after.Idle :=
  ⟨hSame.path_eq.trans hIdle.path_eq,
    hSame.busy_eq.trans hIdle.busy_eq⟩

end Idle

end Progress

namespace Sheet

variable {sheet : Sheet}

/- Inner visits of a guarded one are guarded. -/
theorem guarded_of_mem_innerVisits
    {visit inner : Visit}
    (hGuarded :
      visit.progress.Guarded sheet.settings.maxDepth)
    (hInner : inner ∈ sheet.innerVisits visit) :
    inner.progress.Guarded sheet.settings.maxDepth := by
  rcases sameGuard_of_mem_innerVisits hInner with
    ⟨hBegins, hSame⟩
  exact (hGuarded.enter hBegins.1.2 hBegins.2).of_sameGuard
    hSame

/- All visits on the way from a guarded one are guarded. -/
theorem guarded_of_mem_visits
    {visit other : Visit}
    (hGuarded :
      visit.progress.Guarded sheet.settings.maxDepth)
    (hOther : other ∈ sheet.visits visit) :
    other.progress.Guarded sheet.settings.maxDepth :=
  visits_induction
    (motive := fun visit =>
      visit.progress.Guarded sheet.settings.maxDepth)
    (fun _ _ hVisit hInner =>
      guarded_of_mem_innerVisits hVisit hInner)
    hGuarded hOther

/- An evaluation from a guarded visit is guarded throughout. -/
theorem guarded_of_mem_moments
    {visit : Visit}
    {moment : Progress}
    (hGuarded :
      visit.progress.Guarded sheet.settings.maxDepth)
    (hMoment : moment ∈ sheet.moments visit) :
    moment.Guarded sheet.settings.maxDepth := by
  unfold moments at hMoment
  split at hMoment
  · rename_i hBegins
    rw [List.mem_append, List.mem_cons,
      List.mem_singleton] at hMoment
    rcases hMoment with (rfl | hState) | rfl
    · exact hGuarded
    · exact (hGuarded.enter hBegins.1.2
        hBegins.2).of_sameGuard
          (Inquiry.states_keep sameGuard_isKept
            sheet.evaluateCell_keeps_guard hState)
    · exact hGuarded.of_sameGuard
        (sheet.evaluateCell_keeps_guard _ _)
  · rw [List.mem_singleton] at hMoment
    rwa [hMoment]

end Sheet

end Spreadsheet
