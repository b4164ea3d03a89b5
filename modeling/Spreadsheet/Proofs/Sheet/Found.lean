import Spreadsheet.Proofs.Sheet.Trail
import Spreadsheet.Proofs.Sheet.Unguarded

/-
  Results that do not depend on the guard.

  A visit on whose way nothing is stopped comes to what its
  cell comes to without a guard, and the values that are known
  at the time may stand for evaluations that are skipped.  For
  these values to be right, a value may be kept only if no
  cell on the way to it was given up for want of room.

  Key definitions include:
    * `Spreadsheet.Sheet.Found`
    * `Spreadsheet.Sheet.Sound`
    * `Spreadsheet.Sheet.Candid`

  Main results:
    * `Spreadsheet.Sheet.sound_and_found`
    * `Spreadsheet.Sheet.sound_of_mem_visits`
    * `Spreadsheet.Sheet.found_of_mem_visits`
    * `Spreadsheet.Sheet.result_of_calm`
-/

------------------------------------------------------------
-- Sound Values
------------------------------------------------------------

namespace Spreadsheet

namespace Sheet

/- The result of a visit is found without a guard. -/
def Found
    (sheet : Sheet)
    (visit : Visit) : Prop :=
  ∃ depth, sheet.unguarded depth visit.cell =
    some (sheet.result visit)

/- The values that are known are found without a guard. -/
def Sound
    (sheet : Sheet)
    (progress : Progress) : Prop :=
  ∀ cell value, progress.known[cell]? = some value →
    ∃ depth, sheet.unguarded depth cell = some (.ok value)

variable {sheet : Sheet}
variable {progress : Progress}

/- Where no value is known, none is wrong. -/
theorem Sound.of_unknown
    (hUnknown : progress.known = ∅) :
    sheet.Sound progress := by
  intro cell value hKnown
  simp [hUnknown] at hKnown

/- To ask the surroundings makes no value known. -/
theorem sound_isPreserved
    (sheet : Sheet) :
    Progress.IsPreserved sheet.Sound where
  draw hSound := hSound
  look hSound := hSound

/- A value that is found can be kept. -/
theorem Sound.keep
    (hSound : sheet.Sound progress)
    {cell : Cell}
    {value : Value}
    {depth : Nat}
    (hValue : sheet.unguarded depth cell = some (.ok value)) :
    sheet.Sound (progress.keep cell value) := by
  intro other found hFound
  change (progress.known.insert cell value)[other]? =
    some found at hFound
  rw [Std.TreeMap.getElem?_insert] at hFound
  split at hFound
  · rename_i hSame
    cases hFound
    rw [← Std.LawfulEqCmp.eq_of_compare hSame]
    exact ⟨depth, hValue⟩
  · exact hSound other found hFound

/- Where an evaluation ends, a value that is found is kept. -/
theorem Sound.closed
    (hSound : sheet.Sound progress)
    {cell : Cell}
    {result : Except Failure Value}
    (hFound : ∀ value, result = .ok value →
      ∃ depth,
        sheet.unguarded depth cell = some (.ok value)) :
    sheet.Sound (sheet.closed cell result progress) := by
  have hLeave : sheet.Sound (progress.leave cell) := hSound
  unfold Sheet.closed
  cases result with
  | error failure => exact hLeave
  | ok value =>
      rcases hFound value rfl with ⟨depth, hDepth⟩
      simp only
      split
      · exact hLeave.keep hDepth
      · exact hLeave

end Sheet

end Spreadsheet

------------------------------------------------------------
-- Values Behind Which Nothing Was Given Up
------------------------------------------------------------

namespace Spreadsheet

namespace Sheet

/-
  At the visits that come to a value, no cell on the way was
  given up for want of room.
-/
def Candid
    (sheet : Sheet)
    (visits : List Visit) : Prop :=
  ∀ visit ∈ visits, ∀ value,
    sheet.result visit = .ok value →
      sheet.Calm (sheet.visits visit)

variable {sheet : Sheet}
variable {visit other : Visit}

/- Fewer visits are candid if more of them are. -/
theorem Candid.subset
    {visits others : List Visit}
    (hCandid : sheet.Candid visits)
    (hSubset : others ⊆ visits) :
    sheet.Candid others :=
  fun visit hVisit => hCandid visit (hSubset hVisit)

/-
  On the way to a value nothing is stopped but for want of
  room: a circle would have come back.
-/
theorem unstopped_of_calm
    {value : Value}
    (hValue : sheet.result visit = .ok value)
    (hCalm : sheet.Calm (sheet.visits visit))
    (hOther : other ∈ sheet.visits visit) :
    Unstopped (sheet.result other) :=
  .of_ne (hCalm other hOther)
    (result_ne_circular hValue hOther)

/- Where no cell is given up, all is candid. -/
theorem candid_of_calm
    {visits : List Visit}
    (hClosed : ∀ visit ∈ visits,
      sheet.visits visit ⊆ visits)
    (hCalm : sheet.Calm visits) :
    sheet.Candid visits :=
  fun visit hVisit _ _ other hOther =>
    hCalm other (hClosed visit hVisit hOther)

/- Where nothing is stopped, all is candid. -/
theorem candid_of_unstopped
    (hUnstopped : ∀ other ∈ sheet.visits visit,
      Unstopped (sheet.result other)) :
    sheet.Candid (sheet.visits visit) := by
  apply candid_of_calm fun _ => visits_subset
  intro other hOther limit hDeep
  cases hUnstopped other hOther _ hDeep

end Sheet

end Spreadsheet

------------------------------------------------------------
-- Results That Are Found
------------------------------------------------------------

namespace Spreadsheet

namespace Sheet

variable {sheet : Sheet}

/- A run comes to what is found if all of its answers are. -/
theorem exists_settled
    {α : Type}
    (hClock : ∀ index,
      sheet.surroundings.clock index = sheet.now)
    {cells : Cell → Prop}
    {inquiry : Inquiry α}
    (hWithin : inquiry.Within cells False)
    {progress : Progress}
    (hAnswers :
      ∀ visit ∈ inquiry.questions sheet.surroundings
          sheet.evaluateCell progress,
        sheet.Found visit) :
    ∃ depth, sheet.settled inquiry depth =
      some ((sheet.resolve inquiry).outcome progress).1 := by
  induction hWithin generalizing progress with
  | settled result => exact ⟨0, rfl⟩
  | @asking cell next hCell hPasses hNext ih =>
      rcases hAnswers _ List.mem_cons_self with
        ⟨first, hFirst⟩
      rcases ih _ fun visit hVisit =>
          hAnswers visit (List.mem_cons_of_mem _ hVisit) with
        ⟨second, hSecond⟩
      refine ⟨max first second, ?_⟩
      rw [resolve, Inquiry.outcome_run_asking]
      exact settled_asking hFirst hSecond
  | drawing hDraws hNext ih => exact hDraws.elim
  | @dating next hNext ih =>
      have hNow := hClock progress.looked
      rw [Inquiry.questions, hNow] at hAnswers
      rw [resolve, Inquiry.outcome_run_dating, hNow]
      exact ih sheet.now hAnswers
  | fitting hNext ih => exact ih _ hAnswers

/-
  Values stay sound at the questions of an evaluation if the
  answers leave them so.
-/
theorem sound_of_mem_innerVisits
    {visit inner : Visit}
    (hAnswers : ∀ inner ∈ sheet.innerVisits visit,
      sheet.Sound inner.progress →
        sheet.Sound ((sheet.evaluateCell inner.cell).outcome
          inner.progress).2)
    (hSound : sheet.Sound visit.progress)
    (hInner : inner ∈ sheet.innerVisits visit) :
    sheet.Sound inner.progress := by
  have hBegins := (sameGuard_of_mem_innerVisits hInner).1
  have hEnter :
      sheet.Sound (visit.progress.enter visit.cell) := hSound
  rw [innerVisits_eq hBegins] at hAnswers hInner
  exact Inquiry.questions_preserve sheet.sound_isPreserved
    hAnswers hEnter hInner

/- A visit that begins is found if all its questions are. -/
theorem found_of_begins
    (hClock : ∀ index,
      sheet.surroundings.clock index = sheet.now)
    {visit : Visit}
    (hRandom : ¬sheet.grid.IsRandomAt visit.cell)
    (hBegins : sheet.Begins visit)
    (hAnswers :
      ∀ inner ∈ sheet.innerVisits visit, sheet.Found inner) :
    sheet.Found visit := by
  rw [innerVisits_eq hBegins] at hAnswers
  rcases exists_settled hClock
      ((sheet.inquiry_within visit.cell).mono
        (fun _ hRefers => hRefers) hRandom)
      hAnswers with ⟨depth, hDepth⟩
  rw [← result_of_begins hBegins] at hDepth
  exact ⟨depth + 1, hDepth⟩

/-
  A visit that begins leaves values sound if the answers to
  its questions do and if its own value is found.
-/
theorem sound_of_begins
    {visit : Visit}
    (hBegins : sheet.Begins visit)
    (hAnswers : ∀ inner ∈ sheet.innerVisits visit,
      sheet.Sound inner.progress →
        sheet.Sound ((sheet.evaluateCell inner.cell).outcome
          inner.progress).2)
    (hSound : sheet.Sound visit.progress)
    (hFound : ∀ value, sheet.result visit = .ok value →
      sheet.Found visit) :
    sheet.Sound ((sheet.evaluateCell visit.cell).outcome
      visit.progress).2 := by
  have hEnter :
      sheet.Sound (visit.progress.enter visit.cell) := hSound
  rw [innerVisits_eq hBegins] at hAnswers
  have hInside :=
    Inquiry.run_preserves sheet.sound_isPreserved hAnswers
      hEnter
  rw [sheet.outcome_begun hBegins.1 hBegins.2]
  refine hInside.closed fun value hValue => ?_
  have hResult : sheet.result visit = .ok value := by
    rw [result_of_begins hBegins]
    exact hValue
  rcases hFound value hResult with ⟨depth, hDepth⟩
  rw [hResult] at hDepth
  exact ⟨depth, hDepth⟩

/- Where no cell that is reached is random, none below is. -/
theorem not_isRandomAt_below
    {visit other : Visit}
    (hRandom : ∀ cell, sheet.grid.Reaches visit.cell cell →
      ¬sheet.grid.IsRandomAt cell)
    (hOther : other ∈ sheet.visits visit)
    (cell : Cell)
    (hReaches : sheet.grid.Reaches other.cell cell) :
    ¬sheet.grid.IsRandomAt cell :=
  hRandom cell ((reaches_of_mem_visits hOther).trans hReaches)

/-
  Where values are sound and candid, an evaluation leaves them
  sound.  Its result is found unless it was stopped on the
  way.
-/
theorem sound_and_found
    (hClock : ∀ index,
      sheet.surroundings.clock index = sheet.now)
    {cell : Cell}
    {progress : Progress}
    (hRandom : ∀ other, sheet.grid.Reaches cell other →
      ¬sheet.grid.IsRandomAt other)
    (hCandid : sheet.Candid (sheet.visits ⟨cell, progress⟩))
    (hSound : sheet.Sound progress) :
    sheet.Sound
      ((sheet.evaluateCell cell).outcome progress).2 ∧
    ((∀ other ∈ sheet.visits ⟨cell, progress⟩,
        Unstopped (sheet.result other)) →
      sheet.Found ⟨cell, progress⟩) := by
  induction cell, progress using sheet.evaluateCell_cases with
  | known cell progress value hKnown =>
      unfold Found result
      rw [sheet.outcome_known hKnown]
      exact ⟨hSound, fun _ => hSound cell value hKnown⟩
  | busy cell progress hKnown hBusy =>
      have hResult := sheet.outcome_busy hKnown hBusy
      rw [hResult]
      refine ⟨hSound, fun hUnstopped => ?_⟩
      have hStop :=
        hUnstopped _ (mem_visits_self _) _
          (congrArg Prod.fst hResult)
      cases hStop
  | full cell progress hOpens hFull =>
      have hResult := sheet.outcome_full hOpens hFull
      rw [hResult]
      refine ⟨hSound, fun hUnstopped => ?_⟩
      have hStop :=
        hUnstopped _ (mem_visits_self _) _
          (congrArg Prod.fst hResult)
      cases hStop
  | begun cell progress hOpens hRoom ih =>
      have hBegins : sheet.Begins ⟨cell, progress⟩ :=
        ⟨hOpens, hRoom⟩
      have hWay :
          ∀ inner ∈ sheet.innerVisits ⟨cell, progress⟩,
            inner ∈ sheet.visits ⟨cell, progress⟩ :=
        fun inner hInner =>
          mem_visits_of_mem_innerVisits (mem_visits_self _)
            hInner
      have hAnswers :
          ∀ inner ∈ sheet.innerVisits ⟨cell, progress⟩,
            sheet.Sound inner.progress →
              sheet.Sound
                ((sheet.evaluateCell inner.cell).outcome
                  inner.progress).2 ∧
              ((∀ other ∈ sheet.visits inner,
                  Unstopped (sheet.result other)) →
                sheet.Found inner) := by
        intro inner hInner
        exact ih inner.cell inner.progress
          (path_of_mem_innerVisits hInner)
          (not_isRandomAt_below hRandom (hWay inner hInner))
          (hCandid.subset (visits_subset (hWay inner hInner)))
      have hFound :
          (∀ other ∈ sheet.visits ⟨cell, progress⟩,
            Unstopped (sheet.result other)) →
          sheet.Found ⟨cell, progress⟩ := by
        intro hUnstopped
        refine found_of_begins hClock
          (hRandom cell (.refl sheet.grid cell))
          hBegins fun inner hInner => ?_
        have hSoundInner :=
          sound_of_mem_innerVisits
            (fun inner hInner hSound =>
              (hAnswers inner hInner hSound).1)
            hSound hInner
        exact (hAnswers inner hInner hSoundInner).2
          fun other hOther =>
            hUnstopped other
              (visits_subset (hWay inner hInner) hOther)
      refine ⟨?_, hFound⟩
      refine sound_of_begins hBegins
        (fun inner hInner hSound =>
          (hAnswers inner hInner hSound).1)
        hSound fun value hValue => ?_
      -- A value is kept only after a candid evaluation, in
      -- which nothing was stopped.
      exact hFound fun other =>
        unstopped_of_calm hValue
          (hCandid _ (mem_visits_self _) value hValue)

variable {visit other : Visit}

/- Values are sound at all visits on the way. -/
theorem sound_of_mem_visits
    (hClock : ∀ index,
      sheet.surroundings.clock index = sheet.now)
    (hRandom : ∀ other, sheet.grid.Reaches visit.cell other →
      ¬sheet.grid.IsRandomAt other)
    (hCandid : sheet.Candid (sheet.visits visit))
    (hSound : sheet.Sound visit.progress)
    (hOther : other ∈ sheet.visits visit) :
    sheet.Sound other.progress := by
  have hWay :
      other ∈ sheet.visits visit ∧
        sheet.Sound other.progress := by
    refine visits_induction
      (motive := fun other =>
        other ∈ sheet.visits visit ∧
          sheet.Sound other.progress)
      ?_ ⟨mem_visits_self visit, hSound⟩ hOther
    rintro middle inner ⟨hMiddle, hSound⟩ hInner
    refine ⟨mem_visits_of_mem_innerVisits hMiddle hInner,
      sound_of_mem_innerVisits ?_ hSound hInner⟩
    intro next hNext hSoundNext
    have hOnWay := mem_visits_of_mem_innerVisits hMiddle hNext
    exact (sound_and_found hClock
      (not_isRandomAt_below hRandom hOnWay)
      (hCandid.subset (visits_subset hOnWay)) hSoundNext).1
  exact hWay.2

/- Where nothing is stopped, the result is found. -/
theorem found_of_unstopped
    (hClock : ∀ index,
      sheet.surroundings.clock index = sheet.now)
    (hRandom : ∀ other, sheet.grid.Reaches visit.cell other →
      ¬sheet.grid.IsRandomAt other)
    (hSound : sheet.Sound visit.progress)
    (hUnstopped : ∀ other ∈ sheet.visits visit,
      Unstopped (sheet.result other)) :
    sheet.Found visit :=
  (sound_and_found hClock hRandom
    (candid_of_unstopped hUnstopped) hSound).2 hUnstopped

/- A visit on the way is found unless it was stopped. -/
theorem found_of_mem_visits
    (hClock : ∀ index,
      sheet.surroundings.clock index = sheet.now)
    (hRandom : ∀ other, sheet.grid.Reaches visit.cell other →
      ¬sheet.grid.IsRandomAt other)
    (hCandid : sheet.Candid (sheet.visits visit))
    (hSound : sheet.Sound visit.progress)
    (hOther : other ∈ sheet.visits visit)
    (hUnstopped : ∀ third ∈ sheet.visits other,
      Unstopped (sheet.result third)) :
    sheet.Found other := by
  have hSoundOther :=
    sound_of_mem_visits hClock hRandom hCandid hSound hOther
  exact (sound_and_found hClock
    (not_isRandomAt_below hRandom hOther)
    (hCandid.subset (visits_subset hOther))
    hSoundOther).2 hUnstopped

/-
  Where no cell is given up for want of room, a cell that is
  evaluated on its own comes to what is found.
-/
theorem result_of_calm
    (hSteady : sheet.Steady)
    (hMemoize : sheet.settings.memoize = false)
    {cell : Cell}
    (hCalm : sheet.Calm (sheet.visits ⟨cell, .start⟩))
    {depth : Nat}
    {final : Except Failure Value}
    (hFinal : sheet.unguarded depth cell = some final) :
    sheet.result ⟨cell, .start⟩ = final := by
  have hReady : sheet.Ready ⟨cell, .start⟩ :=
    ⟨rfl, Progress.Guarded.start, hCalm⟩
  have hDescends :
      sheet.Descends Progress.start.path cell := by
    intro above hAbove
    cases hAbove
  exact eq_of_matches
    (matches_evaluateCell hSteady hMemoize hReady
      hDescends).2 hFinal

end Sheet

end Spreadsheet
