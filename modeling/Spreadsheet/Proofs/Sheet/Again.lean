import Spreadsheet.Proofs.Sheet.Found
import Spreadsheet.Proofs.Sheet.Gained
import Spreadsheet.Proofs.Sheet.Reach

/-
  Inquiries that are made again.

  Where nothing is random and the clock stands still, an
  inquiry that came to a value comes to it once more, if the
  same cells are in progress.  Where values are not kept, all
  answers are found anew in the same way.  Where they are kept,
  the answers that were values are known by then.  The others
  were failures, which are never kept; they are found anew and
  nothing becomes known on the way, unless a cell was given up
  for want of room and would now come to a value.

  Key definitions include:
    * `Spreadsheet.CountsUp`

  Main results:
    * `Spreadsheet.Sheet.resolve_again_of_forgetting`
    * `Spreadsheet.Sheet.evaluateCell_again`
    * `Spreadsheet.Sheet.resolve_again`
-/

------------------------------------------------------------
-- Where Values Are Not Kept
------------------------------------------------------------

namespace Spreadsheet

/- The surroundings were asked no less often. -/
structure CountsUp
    (before after : Progress) : Prop where
  drawn_le : before.drawn ≤ after.drawn
  looked_le : before.looked ≤ after.looked

theorem countsUp_isKept :
    Progress.IsKept CountsUp where
  refl _ := ⟨Nat.le_refl _, Nat.le_refl _⟩
  trans hFirst hSecond :=
    ⟨hFirst.drawn_le.trans hSecond.drawn_le,
      hFirst.looked_le.trans hSecond.looked_le⟩
  draw _ := ⟨Nat.le_succ _, Nat.le_refl _⟩
  look _ := ⟨Nat.le_refl _, Nat.le_succ _⟩

namespace Sheet

variable {sheet : Sheet}
variable {root : Cell}
variable {p q : Progress}

/- The surroundings are only ever asked more often. -/
theorem evaluateCell_counts_up
    (sheet : Sheet)
    (cell : Cell) :
    (sheet.evaluateCell cell).Keeps CountsUp := by
  refine sheet.evaluateCell_keeps countsUp_isKept ?_ cell
  intro cell before after result hOpens hInside
  unfold closed
  split
  · split
    · exact ⟨hInside.drawn_le, hInside.looked_le⟩
    · exact ⟨hInside.drawn_le, hInside.looked_le⟩
  · exact ⟨hInside.drawn_le, hInside.looked_le⟩

/-
  With the same cells in progress and the same values known an
  inquiry comes to the same again.
-/
theorem resolve_again_of_forgetting
    {α : Type}
    (hClock : ∀ index,
      sheet.surroundings.clock index = sheet.now)
    (hRandom : ∀ other, sheet.grid.Reaches root other →
      ¬sheet.grid.IsRandomAt other)
    {inquiry : Inquiry α}
    (hWithin :
      inquiry.Within (sheet.grid.Reaches root) False)
    (hGuard : SameGuard p q)
    (hKnown : SameKnown p q)
    (hCounts : CountsUp p q) :
    ((sheet.resolve inquiry).outcome q).1 =
      ((sheet.resolve inquiry).outcome p).1 := by
  rcases Nat.exists_eq_add_of_le' hCounts.drawn_le with
    ⟨drawn, hDrawn⟩
  rcases Nat.exists_eq_add_of_le' hCounts.looked_le with
    ⟨looked, hLooked⟩
  have hShifted : Progress.Shifted drawn looked q p :=
    ⟨hKnown, hGuard.busy_eq, hGuard.path_eq, hDrawn, hLooked⟩
  have hSurroundings :
      sheet.surroundings.Agree
        (Progress.Shifted drawn looked) False
        sheet.surroundings :=
    {
      random := False.elim
      clock := fun hShifted =>
        ⟨(hClock _).trans (hClock _).symm,
          { hShifted with
            looked_eq :=
              congrArg Nat.succ hShifted.looked_eq }⟩
      fits := rfl
    }
  refine (Inquiry.run_agree hSurroundings hWithin hShifted
    ?_).1
  intro visit _ hReaches q' hShifted'
  exact evaluateCell_agree sheet sheet
    (sheet.grid.Reaches root) rfl hSurroundings hRandom
    (fun _ _ hCell hRefers => hCell.step hRefers)
    (fun _ _ => rfl) hReaches hShifted'

end Sheet

end Spreadsheet

------------------------------------------------------------
-- Where Values Are Kept
------------------------------------------------------------

namespace Spreadsheet

namespace Sheet

variable {sheet : Sheet}
variable {p q : Progress}

/-
  An inquiry comes to the same again, and nothing becomes
  known, if this is so with each answer to its questions.
-/
theorem run_again
    {α : Type}
    (hClock : ∀ index,
      sheet.surroundings.clock index = sheet.now)
    {cells : Cell → Prop}
    {inquiry : Inquiry α}
    (hWithin : inquiry.Within cells False)
    (hGuard : SameGuard p q)
    (hAnswers :
      ∀ visit ∈ inquiry.questions sheet.surroundings
          sheet.evaluateCell p,
        ∀ q', SameGuard visit.progress q' →
          SameKnown q q' →
          ((sheet.evaluateCell visit.cell).outcome q').1 =
              sheet.result visit ∧
            SameKnown q'
              ((sheet.evaluateCell visit.cell).outcome
                q').2) :
    ((sheet.resolve inquiry).outcome q).1 =
        ((sheet.resolve inquiry).outcome p).1 ∧
      SameKnown q ((sheet.resolve inquiry).outcome q).2 := by
  have hAgree :
      Agree (fun p' q' => SameGuard p' q' ∧ SameKnown q q')
        ((sheet.resolve inquiry).outcome p)
        ((sheet.resolve inquiry).outcome q) := by
    refine Inquiry.run_agree ?_ hWithin ⟨hGuard, rfl⟩ ?_
    · exact {
        random := False.elim
        clock := fun ⟨hSame, hKnown⟩ =>
          ⟨(hClock _).trans (hClock _).symm,
            ⟨hSame.path_eq, hSame.busy_eq⟩, hKnown⟩
        fits := rfl
      }
    · rintro visit hVisit - q' ⟨hSame, hKnown⟩
      rcases hAnswers visit hVisit q' hSame hKnown with
        ⟨hResult, hAfter⟩
      have hLeft :=
        sheet.evaluateCell_keeps_guard visit.cell
          visit.progress
      have hRight :=
        sheet.evaluateCell_keeps_guard visit.cell q'
      refine ⟨hResult.symm, ⟨?_, ?_⟩, ?_⟩
      · rw [hRight.path_eq, hSame.path_eq, hLeft.path_eq]
      · rw [hRight.busy_eq, hSame.busy_eq, hLeft.busy_eq]
      · exact sameKnown_isKept.trans hKnown hAfter
  exact ⟨hAgree.1.symm, hAgree.2.2⟩

/-
  A visit on whose way nothing was stopped comes to the same
  again if what became known by it is still known.  Nothing
  becomes known that was not.
-/
theorem evaluateCell_again
    (hMemoize : sheet.settings.memoize = true)
    (hClock : ∀ index,
      sheet.surroundings.clock index = sheet.now)
    {cell : Cell}
    (hRandom : ∀ other, sheet.grid.Reaches cell other →
      ¬sheet.grid.IsRandomAt other)
    (hSound : sheet.Sound p)
    (hUnstopped : ∀ other ∈ sheet.visits ⟨cell, p⟩,
      Unstopped (sheet.result other))
    (hGuard : SameGuard p q)
    (hRetains : (sheet.leftBy ⟨cell, p⟩).Retains q)
    (hLater : sheet.Sound q) :
    ((sheet.evaluateCell cell).outcome q).1 =
        sheet.result ⟨cell, p⟩ ∧
      SameKnown q ((sheet.evaluateCell cell).outcome q).2 := by
  induction cell, p using sheet.evaluateCell_cases
    generalizing q with
  | known cell p value hKnown =>
      have hOutcome := sheet.outcome_known hKnown
      have hKnown' : q.known[cell]? = some value := by
        apply hRetains
        rw [leftBy, hOutcome]
        exact hKnown
      rw [result, hOutcome, sheet.outcome_known hKnown']
      exact ⟨rfl, rfl⟩
  | busy cell p hKnown hBusy =>
      have hStop :=
        hUnstopped _ (mem_visits_self _) _
          (congrArg Prod.fst (sheet.outcome_busy hKnown hBusy))
      cases hStop
  | full cell p hOpens hFull =>
      have hStop :=
        hUnstopped _ (mem_visits_self _) _
          (congrArg Prod.fst (sheet.outcome_full hOpens hFull))
      cases hStop
  | begun cell p hOpens hRoom ih =>
      have hBegins : sheet.Begins ⟨cell, p⟩ :=
        ⟨hOpens, hRoom⟩
      cases hResult : sheet.result ⟨cell, p⟩ with
      | ok value =>
          have hKnown : q.known[cell]? = some value :=
            hRetains cell value (known_leftBy hMemoize hResult)
          rw [sheet.outcome_known hKnown]
          exact ⟨rfl, rfl⟩
      | error failure =>
          -- What failed has no value, so it is not known now.
          have hUnknown : q.known[cell]? = none := by
            cases hKnown : q.known[cell]? with
            | none => rfl
            | some value =>
                rcases hLater cell value hKnown with
                  ⟨depth, hValue⟩
                rcases found_of_unstopped hClock hRandom hSound
                    hUnstopped with ⟨other, hFound⟩
                rw [hResult] at hFound
                cases unguarded_unique hValue hFound
          have hOpens' : q.Opens cell := by
            refine ⟨hUnknown, ?_⟩
            rw [hGuard.busy_eq]
            exact hOpens.2
          have hRoom' :
              q.path.length < sheet.settings.maxDepth := by
            rwa [hGuard.path_eq]
          have hInside :=
            run_again hClock
              ((sheet.inquiry_within cell).mono
                (fun _ hRefers => hRefers)
                (hRandom cell (.refl sheet.grid cell)))
              (hGuard.enter cell) (q := q.enter cell)
              fun visit hVisit q' hSame hKnown => by
                rw [← innerVisits_eq hBegins] at hVisit
                have hWay :=
                  mem_visits_of_mem_innerVisits
                    (mem_visits_self _) hVisit
                have hSame' : q'.known = q.known := hKnown
                refine ih visit.cell visit.progress
                  (path_of_mem_innerVisits hVisit)
                  (not_isRandomAt_below hRandom hWay)
                  (sound_of_mem_visits hClock hRandom
                    (candid_of_unstopped hUnstopped) hSound
                    hWay)
                  (fun other hOther => hUnstopped other
                    (visits_subset hWay hOther))
                  hSame ?_ ?_
                · intro other value hValue
                  rw [hSame']
                  exact hRetains other value
                    (leftBy_retains_of_mem_visits hWay other
                      value hValue)
                · intro other value hValue
                  rw [hSame'] at hValue
                  exact hLater other value hValue
          rw [← result_of_begins hBegins, hResult] at hInside
          rw [sheet.outcome_begun hOpens' hRoom']
          refine ⟨hInside.1, ?_⟩
          simp only [hInside.1]
          exact hInside.2

end Sheet

end Spreadsheet

------------------------------------------------------------
-- Whole Inquiries
------------------------------------------------------------

namespace Spreadsheet

namespace Sheet

variable {sheet : Sheet}
variable {root : Cell}
variable {p q : Progress}

/-
  Values stay sound through an inquiry in which no cell is
  given up for want of room.
-/
theorem sound_resolve
    {α : Type}
    (hClock : ∀ index,
      sheet.surroundings.clock index = sheet.now)
    (hRandom : ∀ other, sheet.grid.Reaches root other →
      ¬sheet.grid.IsRandomAt other)
    {inquiry : Inquiry α}
    (hWithin :
      inquiry.Within (sheet.grid.Reaches root) False)
    (hCalm :
      ∀ visit ∈ inquiry.questions sheet.surroundings
          sheet.evaluateCell p,
        sheet.Calm (sheet.visits visit))
    (hSound : sheet.Sound p) :
    sheet.Sound ((sheet.resolve inquiry).outcome p).2 ∧
      ∀ visit ∈ inquiry.questions sheet.surroundings
          sheet.evaluateCell p,
        sheet.Sound visit.progress := by
  have hAnswers :
      ∀ visit ∈ inquiry.questions sheet.surroundings
          sheet.evaluateCell p,
        sheet.Sound visit.progress →
          sheet.Sound ((sheet.evaluateCell visit.cell).outcome
            visit.progress).2 := by
    intro visit hVisit hSoundThere
    have hCandid : sheet.Candid (sheet.visits visit) :=
      candid_of_calm (fun _ => visits_subset)
        (hCalm visit hVisit)
    have hReaches := hWithin.of_mem_questions hVisit
    exact (sound_and_found hClock
      (fun other hOther =>
        hRandom other (hReaches.trans hOther))
      hCandid hSoundThere).1
  exact
    ⟨Inquiry.run_preserves sheet.sound_isPreserved hAnswers
        hSound,
      fun visit hVisit =>
        Inquiry.questions_preserve sheet.sound_isPreserved
          hAnswers hSound hVisit⟩

/-
  On the way of an inquiry to a value nothing is stopped but
  for want of room.
-/
theorem unstopped_of_value
    {α : Type}
    {cells : Cell → Prop}
    {random : Prop}
    {inquiry : Inquiry α}
    (hWithin : inquiry.Within cells random)
    {value : α}
    (hValue :
      ((sheet.resolve inquiry).outcome p).1 = .ok value)
    {visit other : Visit}
    (hVisit :
      visit ∈ inquiry.questions sheet.surroundings
        sheet.evaluateCell p)
    (hCalm : sheet.Calm (sheet.visits visit))
    (hOther : other ∈ sheet.visits visit) :
    Unstopped (sheet.result other) := by
  refine .of_ne (hCalm other hOther) fun path hCircular => ?_
  have hFailed :=
    Inquiry.result_of_passes (hWithin.passes rfl) hVisit
      (result_of_uncaught rfl hOther hCircular)
  rw [← resolve, hValue] at hFailed
  cases hFailed

/- Where values are kept, a value is come to once more. -/
theorem resolve_again_of_keeping
    {α : Type}
    (hMemoize : sheet.settings.memoize = true)
    (hClock : ∀ index,
      sheet.surroundings.clock index = sheet.now)
    (hRandom : ∀ other, sheet.grid.Reaches root other →
      ¬sheet.grid.IsRandomAt other)
    {inquiry : Inquiry α}
    (hWithin :
      inquiry.Within (sheet.grid.Reaches root) False)
    (hCalm :
      ∀ visit ∈ inquiry.questions sheet.surroundings
          sheet.evaluateCell p,
        sheet.Calm (sheet.visits visit))
    (hSound : sheet.Sound p)
    {value : α}
    (hValue :
      ((sheet.resolve inquiry).outcome p).1 = .ok value)
    (hGains :
      ((sheet.resolve inquiry).outcome p).2.Gains q)
    (hLater : sheet.Sound q) :
    ((sheet.resolve inquiry).outcome q).1 = .ok value := by
  have hSounds :=
    (sound_resolve hClock hRandom hWithin hCalm hSound).2
  have hGuard : SameGuard p q :=
    sameGuard_isKept.trans
      (sheet.resolve_keeps sameGuard_isKept
        sheet.evaluateCell_keeps_guard inquiry p)
      hGains.same_guard
  have hAgain := run_again hClock hWithin hGuard
    fun visit hVisit q' hSame hKnown => by
      have hReaches := hWithin.of_mem_questions hVisit
      have hAfter :
          (sheet.leftBy visit).Retains q :=
        ((Chained.questions Progress.gains_isKept
            sheet.surroundings inquiry p).after
          Progress.gains_isKept sheet.evaluateCell_gains
            hVisit).retains.trans hGains.retains
      have hSame' : q'.known = q.known := hKnown
      refine evaluateCell_again hMemoize hClock
        (fun other hOther =>
          hRandom other (hReaches.trans hOther))
        (hSounds visit hVisit)
        (fun other hOther =>
          unstopped_of_value hWithin hValue hVisit
            (hCalm visit hVisit) hOther)
        hSame ?_ ?_
      · intro other found hFound
        rw [hSame']
        exact hAfter other found hFound
      · intro other found hFound
        rw [hSame'] at hFound
        exact hLater other found hFound
  exact hAgain.1.trans hValue

/-
  The first part of an inquiry comes to its value once more
  after the whole inquiry.
-/
theorem resolve_again
    {α β : Type}
    (hClock : ∀ index,
      sheet.surroundings.clock index = sheet.now)
    (hRandom : ∀ other, sheet.grid.Reaches root other →
      ¬sheet.grid.IsRandomAt other)
    {first : Inquiry α}
    {follow : α → Inquiry β}
    (hFirst : first.Within (sheet.grid.Reaches root) False)
    (hFollow : ∀ value,
      (follow value).Within (sheet.grid.Reaches root) False)
    (hRoom : sheet.settings.memoize = false ∨
      ∀ visit ∈ (first >>= follow).questions
          sheet.surroundings sheet.evaluateCell p,
        sheet.Calm (sheet.visits visit))
    (hSound : sheet.Sound p)
    {value : α}
    (hValue :
      ((sheet.resolve first).outcome p).1 = .ok value) :
    ((sheet.resolve first).outcome
        ((sheet.resolve (first >>= follow)).outcome p).2).1 =
      .ok value := by
  rcases Bool.eq_false_or_eq_true sheet.settings.memoize with
    hKeeping | hForgetting
  · have hCalm := hRoom.resolve_left (by simp [hKeeping])
    have hGains :
        ((sheet.resolve first).outcome p).2.Gains
          ((sheet.resolve (first >>= follow)).outcome p).2 := by
      rw [Inquiry.bind_eq_andThen, resolve, resolve,
        Inquiry.outcome_andThen]
      exact sheet.resolve_keeps Progress.gains_isKept
        sheet.evaluateCell_gains _ _
    have hLater :=
      (sound_resolve hClock hRandom (hFirst.bind hFollow)
        hCalm hSound).1
    refine resolve_again_of_keeping hKeeping hClock hRandom
      hFirst (fun visit hVisit => hCalm visit ?_) hSound
      hValue hGains hLater
    rw [Inquiry.bind_eq_andThen, Inquiry.questions_andThen]
    exact List.mem_append_left _ hVisit
  · have hGuard :=
      sheet.resolve_keeps sameGuard_isKept
        sheet.evaluateCell_keeps_guard (first >>= follow) p
    have hKnown :=
      sheet.resolve_keeps sameKnown_isKept
        (sheet.evaluateCell_keeps_known hForgetting)
        (first >>= follow) p
    have hCounts :=
      sheet.resolve_keeps countsUp_isKept
        sheet.evaluateCell_counts_up (first >>= follow) p
    rw [resolve_again_of_forgetting hClock hRandom hFirst
      hGuard hKnown hCounts]
    exact hValue

end Sheet

end Spreadsheet
