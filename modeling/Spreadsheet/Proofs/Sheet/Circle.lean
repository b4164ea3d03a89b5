import Mathlib.Data.List.Nodup
import Spreadsheet.Proofs.Address.Label
import Spreadsheet.Proofs.Sheet.Trail

/-
  Circles that are reported.

  The path of a reported circle starts and ends at one cell.
  In between it follows the references of formulas, visits no
  cell twice and can be read off the labels of its cells.

  Main results:
    * `Spreadsheet.Progress.circle_of_trail`
    * `Spreadsheet.Sheet.circle_of_references`
-/

------------------------------------------------------------
-- Circles
------------------------------------------------------------

namespace Spreadsheet

namespace Progress

/- A circle is the end of the path, from its cell on. -/
theorem exists_circle_eq
    {progress : Progress}
    {cell : Cell}
    (hPath : cell ∈ progress.path) :
    ∃ before rest,
      progress.path.reverse = before ++ cell :: rest ∧
        progress.circle cell = cell :: (rest ++ [cell]) := by
  rcases List.eq_append_cons_of_mem
      (List.mem_reverse.mpr hPath) with
    ⟨before, rest, hPath, hBefore⟩
  refine ⟨before, rest, hPath, ?_⟩
  have hOthers :
      ∀ other ∈ before, decide (other ≠ cell) = true := by
    intro other hOther
    apply decide_eq_true
    rintro rfl
    exact hBefore hOther
  rw [circle, hPath, List.dropWhile_append_of_pos hOthers,
    List.dropWhile_cons_of_neg (by simp),
    List.cons_append]

/-
  Where a trail without repetitions comes back to one of its
  cells, the circle follows the references and has each of its
  cells once before it comes back.
-/
theorem circle_of_trail
    {grid : Grid}
    {start cell : Cell}
    {progress : Progress}
    (hTrail : grid.Trail start cell progress.path)
    (hNodup : progress.path.Nodup)
    (hPath : cell ∈ progress.path) :
    ∃ rest,
      progress.circle cell = cell :: (rest ++ [cell]) ∧
      (cell :: rest).Nodup ∧
      cell :: rest ⊆ progress.path ∧
      (progress.circle cell).IsChain grid.Refers := by
  rcases exists_circle_eq hPath with
    ⟨before, rest, hReverse, hCircle⟩
  refine ⟨rest, hCircle, ?_, ?_, ?_⟩
  · have hAll := List.nodup_reverse.mpr hNodup
    rw [hReverse] at hAll
    exact hAll.of_append_right
  · intro member hMember
    rw [← List.mem_reverse, hReverse]
    exact List.mem_append_right before hMember
  · have hChain := hTrail.isChain
    rw [hReverse, List.append_assoc,
      List.cons_append] at hChain
    rw [hCircle]
    exact hChain.right_of_append

end Progress

namespace Sheet

variable {sheet : Sheet}

/- The cells on the path of a visit have their labels alone. -/
theorem eq_of_label_eq_of_mem_path
    {start visit : Visit}
    (hIdle : start.progress.Idle)
    (hVisit : visit ∈ sheet.visits start)
    {cell other : Cell}
    (hCell : cell ∈ visit.progress.path)
    (hLabel : other.label = cell.label) :
    other = cell := by
  rcases (trail_of_mem_visits hIdle
      hVisit).exists_refers_of_mem hCell with
    ⟨next, hRefers⟩
  rcases hRefers with ⟨formula, hFormula, -⟩
  exact Cell.eq_of_label_eq
    (Grid.col_nonneg_of_formula hFormula) hLabel

/-
  Where the evaluation of a cell closes a circle, the path
  that is reported starts and ends at one cell, which is
  reached.  Each of its cells refers to the next one.  Before
  the path comes back all labels differ, and no other cell has
  any of them.
-/
theorem circle_of_references
    (sheet : Sheet)
    (cell : Cell)
    {progress : Progress}
    (hIdle : progress.Idle)
    {path : List Cell}
    (hResult :
      ((sheet.evaluateCell cell).outcome progress).1 =
        .error (.circular path)) :
    ∃ first rest,
      path = first :: (rest ++ [first]) ∧
      ((first :: rest).map Cell.label).Nodup ∧
      path.IsChain sheet.grid.Refers ∧
      sheet.grid.Reaches cell first ∧
      ∀ member ∈ path, ∀ other : Cell,
        other.label = member.label → other = member := by
  have hStopped :
      sheet.result ⟨cell, progress⟩ =
        .error (.circular path) := hResult
  rcases exists_stop rfl hStopped with
    ⟨source, hSource, hStops⟩
  cases hStops with
  | circle hBusy =>
      have hTrail := trail_of_mem_visits hIdle hSource
      have hGuarded :=
        guarded_of_mem_visits (hIdle.guarded _) hSource
      have hPath : source.cell ∈ source.progress.path :=
        (hGuarded.mem_busy_iff source.cell).mp hBusy
      rcases Progress.circle_of_trail hTrail hGuarded.nodup
          hPath with
        ⟨rest, hCircle, hNodup, hSubset, hChain⟩
      have hLabel :
          ∀ member ∈ source.cell :: rest,
            ∀ other : Cell, other.label = member.label →
              other = member :=
        fun member hMember other =>
          eq_of_label_eq_of_mem_path hIdle hSource
            (hSubset hMember)
      refine ⟨source.cell, rest, hCircle, ?_, hChain,
        hTrail.reaches, ?_⟩
      · apply hNodup.map_on
        intro member hMember other hOther hSame
        exact hLabel other hOther member hSame
      · intro member hInCircle
        apply hLabel
        rw [hCircle] at hInCircle
        simpa [or_comm, or_left_comm] using hInCircle

/- The circle that a result reports, if it reports one. -/
def circle? :
    Except Failure Value → Option (List Cell)
  | .error (.circular path) => some path
  | _ => none

theorem circle?_eq_some_iff
    (result : Except Failure Value)
    (path : List Cell) :
    circle? result = some path ↔
      result = .error (.circular path) := by
  cases result with
  | ok value => simp [circle?]
  | error failure => cases failure <;> simp [circle?]

instance
    (result : Except Failure Value)
    (path : List Cell) :
    Decidable (result = .error (.circular path)) :=
  decidable_of_iff (circle? result = some path)
    (circle?_eq_some_iff result path)

/-
  A sheet whose first cell leads into a circle of the other
  two, over an area and a label with a leading zero.
-/
def turning : Sheet where
  grid := [[some "=B1", some "=SUM(C1:C2)", some "=b01"]]
  settings := ⟨5, 10, false, false, 1⟩
  surroundings := .still

/- The circle is reported without the cell that leads to it. -/
theorem circle_of_turning :
    Progress.start.Idle ∧
    ((turning.evaluateCell ⟨0, 0⟩).outcome .start).1 =
      .error (.circular [⟨0, 1⟩, ⟨0, 2⟩, ⟨0, 1⟩]) ∧
    ∃ first rest,
      [⟨0, 1⟩, ⟨0, 2⟩, ⟨0, 1⟩] =
        first :: (rest ++ [first]) ∧
      ((first :: rest).map Cell.label).Nodup ∧
      [(⟨0, 1⟩ : Cell), ⟨0, 2⟩, ⟨0, 1⟩].IsChain
        turning.grid.Refers ∧
      turning.grid.Reaches ⟨0, 0⟩ first ∧
      ∀ member ∈ [(⟨0, 1⟩ : Cell), ⟨0, 2⟩, ⟨0, 1⟩],
        ∀ other : Cell,
          other.label = member.label → other = member := by
  have hIdle : Progress.start.Idle := ⟨rfl, rfl⟩
  have hResult :
      ((turning.evaluateCell ⟨0, 0⟩).outcome .start).1 =
        .error (.circular [⟨0, 1⟩, ⟨0, 2⟩, ⟨0, 1⟩]) := by
    decide +kernel
  exact ⟨hIdle, hResult,
    circle_of_references turning ⟨0, 0⟩ hIdle hResult⟩

end Sheet

end Spreadsheet
