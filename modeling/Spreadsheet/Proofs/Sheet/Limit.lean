import Spreadsheet.Proofs.Sheet.Reach
import Spreadsheet.Proofs.Sheet.Stop

/-
  Sheets with more room.

  The room for cells in progress is only a bound.  Where no
  formula catches a failure, a cell that was not given up for
  want of room shows that there was room on all the way.  With
  more room the same evaluation is made, step by step.

  Key definitions include:
    * `Spreadsheet.Sheet.limited`

  Main results:
    * `Spreadsheet.Sheet.outcome_limited`
    * `Spreadsheet.Sheet.outcome_of_more_room`
-/

------------------------------------------------------------
-- Evaluations With More Room
------------------------------------------------------------

namespace Spreadsheet

namespace Sheet

/- A sheet where so many cells may be in progress. -/
def limited
    (sheet : Sheet)
    (limit : Nat) :
    Sheet :=
  {
    sheet with
    settings := { sheet.settings with maxDepth := limit }
  }

@[simp] theorem inquiry_limited
    (sheet : Sheet)
    (limit : Nat)
    (cell : Cell) :
    (sheet.limited limit).inquiry cell = sheet.inquiry cell :=
  rfl

@[simp] theorem closed_limited
    (sheet : Sheet)
    (limit : Nat) :
    (sheet.limited limit).closed = sheet.closed :=
  rfl

variable {sheet : Sheet}
variable {limit higher : Nat}

/-
  Below a cell that fails otherwise or not at all, no visit is
  given up for want of room.
-/
theorem inner_result_ne_tooDeep
    {visit inner : Visit}
    (hInner : inner ∈ sheet.innerVisits visit)
    (hCatches : ¬sheet.grid.CallsAt .ifError visit.cell)
    (hResult : ∀ n, sheet.result visit ≠ .error (.tooDeep n))
    (n : Nat) :
    sheet.result inner ≠ .error (.tooDeep n) :=
  fun hDeep => hResult n
    (result_of_inner (inquiry_passes hCatches _) hInner hDeep)

/-
  If the visits that a cell makes have the same outcome with
  more room, then its formula comes to the same end.
-/
theorem outcome_resolve_limited
    {cell : Cell}
    {progress : Progress}
    (hBegins :
      (sheet.limited limit).Begins ⟨cell, progress⟩)
    (hInner : ∀ visit ∈
      (sheet.limited limit).innerVisits ⟨cell, progress⟩,
      sheet.grid.Refers cell visit.cell →
      ((sheet.limited limit).evaluateCell
          visit.cell).outcome visit.progress =
        ((sheet.limited higher).evaluateCell
          visit.cell).outcome visit.progress) :
    ((sheet.limited limit).resolve
        (sheet.inquiry cell)).outcome
          (progress.enter cell) =
      ((sheet.limited higher).resolve
        (sheet.inquiry cell)).outcome
          (progress.enter cell) := by
  have hAgree :
      Agree Eq
        (((sheet.limited limit).resolve
          (sheet.inquiry cell)).outcome
            (progress.enter cell))
        (((sheet.limited higher).resolve
          (sheet.inquiry cell)).outcome
            (progress.enter cell)) := by
    refine Inquiry.run_agree
      (.refl sheet.surroundings _)
      (sheet.inquiry_within cell) rfl ?_
    rintro visit hVisit hRefers _ rfl
    have hMem :
        visit ∈ (sheet.limited limit).innerVisits
          ⟨cell, progress⟩ := by
      rw [innerVisits_eq hBegins]
      exact hVisit
    exact Prod.ext_iff.mp (hInner visit hMem hRefers)
  exact Prod.ext hAgree.1 hAgree.2

/-
  Let references not leave a set of cells, none of which
  catches a failure.  An evaluation in this set that does not
  fail for want of room has the same outcome with more room.
-/
theorem outcome_limited
    (hLimits : limit ≤ higher)
    {reached : Cell → Prop}
    (hClosed : ∀ cell other, reached cell →
      sheet.grid.Refers cell other → reached other)
    (hCatches : ∀ cell, reached cell →
      ¬sheet.grid.CallsAt .ifError cell)
    {cell : Cell}
    {progress : Progress}
    (hCell : reached cell)
    (hResult : ∀ n,
      (sheet.limited limit).result ⟨cell, progress⟩ ≠
        .error (.tooDeep n)) :
    ((sheet.limited limit).evaluateCell cell).outcome
        progress =
      ((sheet.limited higher).evaluateCell cell).outcome
        progress := by
  induction cell, progress using
      (sheet.limited limit).evaluateCell_cases with
  | known cell progress value hKnown =>
      rw [outcome_known _ hKnown, outcome_known _ hKnown]
  | busy cell progress hKnown hBusy =>
      rw [outcome_busy _ hKnown hBusy,
        outcome_busy _ hKnown hBusy]
  | full cell progress hOpens hFull =>
      exfalso
      apply hResult limit
      unfold result
      rw [outcome_full _ hOpens hFull]
      rfl
  | begun cell progress hOpens hRoom ih =>
      have hBegins :
          (sheet.limited limit).Begins ⟨cell, progress⟩ :=
        ⟨hOpens, hRoom⟩
      have hRoom' :
          progress.path.length <
            (sheet.limited higher).settings.maxDepth :=
        Nat.lt_of_lt_of_le hRoom hLimits
      have hSame :=
        outcome_resolve_limited hBegins
          fun visit hVisit hRefers =>
            ih visit.cell visit.progress
              (path_of_mem_innerVisits hVisit)
              (hClosed cell visit.cell hCell hRefers)
              (inner_result_ne_tooDeep hVisit
                (hCatches cell hCell) hResult)
      rw [outcome_begun _ hOpens hRoom,
        outcome_begun _ hOpens hRoom']
      simp only [inquiry_limited, closed_limited, hSame]

end Sheet

end Spreadsheet

------------------------------------------------------------
-- Fresh Evaluations
------------------------------------------------------------

namespace Spreadsheet

namespace Sheet

/-
  Let no cell that is reached catch a failure.  If a fresh
  evaluation does not fail for want of room, then it comes to
  the same value or to the same failure wherever there is at
  least as much room, and leaves the same progress behind.
-/
theorem outcome_of_more_room
    (sheet : Sheet)
    {limit higher : Nat}
    (hLimits : limit ≤ higher)
    {cell : Cell}
    (hCatches : ∀ other, sheet.grid.Reaches cell other →
      ¬sheet.grid.CallsAt .ifError other)
    (hResult : ∀ n,
      (sheet.limited limit).result ⟨cell, .start⟩ ≠
        .error (.tooDeep n)) :
    ((sheet.limited higher).evaluateCell cell).outcome
        .start =
      ((sheet.limited limit).evaluateCell cell).outcome
        .start := by
  symm
  exact outcome_limited hLimits
    (fun _ _ hReaches hRefers => hReaches.step hRefers)
    hCatches (.refl sheet.grid cell) hResult

/- A sheet with a chain of three cells. -/
def chained : Sheet where
  grid := [[some "=B1&SUM(B1:C1)", some "=C1", some "2"]]
  settings := ⟨1, 10, false, false, 1⟩
  surroundings := .still

/- Room for the chain is enough, however much there is. -/
theorem outcome_of_chained :
    (∀ other, ¬chained.grid.CallsAt .ifError other) ∧
    (chained.limited 3).result ⟨⟨0, 0⟩, .start⟩ =
      .ok (.text "24") ∧
    ∀ higher, 3 ≤ higher →
      ((chained.limited higher).evaluateCell
          ⟨0, 0⟩).outcome .start =
        ((chained.limited 3).evaluateCell
          ⟨0, 0⟩).outcome .start := by
  have hCatches :
      ∀ other, ¬chained.grid.CallsAt .ifError other :=
    Grid.not_callsAt (by decide +kernel)
  have hValue :
      (chained.limited 3).result ⟨⟨0, 0⟩, .start⟩ =
        .ok (.text "24") := by
    decide +kernel
  refine ⟨hCatches, hValue, ?_⟩
  intro higher hLimits
  apply outcome_of_more_room chained hLimits
    (fun other _ => hCatches other)
  intro n hDeep
  rw [hValue] at hDeep
  cases hDeep

end Sheet

end Spreadsheet
