import Mathlib.Data.List.Perm.Subperm
import Spreadsheet.Proofs.Sheet.Found

/-
  Cells that are evaluated below others.

  With room for more cells than there are formulas, no cell is
  given up for want of room, since a path of cells in progress
  has each formula once.  Then a value tells that nothing was
  stopped on the way to it, also where failures were caught,
  and each cell that was evaluated for it has come to what it
  comes to on its own.

  Main results:
    * `Spreadsheet.Sheet.length_path_le`
    * `Spreadsheet.Sheet.calm_of_room`
    * `Spreadsheet.Sheet.nested_result_of_value`
-/

------------------------------------------------------------
-- Room For All Formulas
------------------------------------------------------------

namespace Spreadsheet

namespace Sheet

variable {sheet : Sheet}
variable {visit other : Visit}

/- A path has each of the formulas of the grid at most once. -/
theorem length_path_le
    (hIdle : visit.progress.Idle)
    (hOther : other ∈ sheet.visits visit) :
    other.progress.path.length ≤
      sheet.grid.formulaCells.length := by
  have hGuarded :=
    guarded_of_mem_visits (hIdle.guarded _) hOther
  have hTrail := trail_of_mem_visits hIdle hOther
  have hFormulas :
      other.progress.path ⊆ sheet.grid.formulaCells := by
    intro cell hCell
    rcases hTrail.exists_refers_of_mem hCell with
      ⟨next, formula, hFormula, -⟩
    exact Grid.mem_formulaCells_of_formula hFormula
  exact (hGuarded.nodup.subperm hFormulas).length_le

/-
  With room for more cells than there are formulas, no cell is
  given up for want of room.
-/
theorem calm_of_room
    (hRoom : sheet.grid.formulaCells.length <
      sheet.settings.maxDepth)
    (hIdle : visit.progress.Idle) :
    sheet.Calm (sheet.visits visit) := by
  intro other hOther limit hDeep
  rcases exists_stop rfl hDeep with
    ⟨source, hSource, hStops⟩
  have hLength :=
    length_path_le hIdle (visits_subset hOther hSource)
  cases hStops with
  | full hFull => omega

end Sheet

end Spreadsheet

------------------------------------------------------------
-- Nested Results
------------------------------------------------------------

namespace Spreadsheet

namespace Sheet

/-
  Let there be room for more cells than there are formulas,
  none of which is random, and let the clock stand still.  If
  a cell has a value, then each cell that is evaluated on the
  way, also inside an attempt that fails, comes to the same on
  its own and closes no circle.
-/
theorem nested_result_of_value
    (sheet : Sheet)
    (hMemoize : sheet.settings.memoize = false)
    (hRandom : ∀ cell, ¬sheet.grid.IsRandomAt cell)
    (hClock : ∀ index,
      sheet.surroundings.clock index =
        sheet.surroundings.clock 0)
    (hRoom : sheet.grid.formulaCells.length + 1 ≤
      sheet.settings.maxDepth)
    {cell : Cell}
    {value : Value}
    (hValue : sheet.result ⟨cell, .start⟩ = .ok value)
    {visit : Visit}
    (hVisit : visit ∈ sheet.visits ⟨cell, .start⟩)
    (random : Nat → Float)
    {clock : Nat → Moment}
    (hFresh : ∀ index,
      clock index = sheet.surroundings.clock 0) :
    (∀ path,
      (sheet.among random clock).result
          ⟨visit.cell, .start⟩ ≠
        .error (.circular path)) ∧
    (sheet.among random clock).result ⟨visit.cell, .start⟩ =
      sheet.result visit := by
  have hUnstopped :
      ∀ other ∈ sheet.visits ⟨cell, .start⟩,
        Unstopped (sheet.result other) :=
    fun other hOther =>
      unstopped_of_calm hValue
        (calm_of_room hRoom ⟨rfl, rfl⟩) hOther
  have hInside : sheet.Found visit :=
    found_of_mem_visits hClock
      (fun other _ => hRandom other)
      (candid_of_unstopped hUnstopped) (.of_unknown rfl)
      hVisit fun third hThird =>
        hUnstopped third (visits_subset hVisit hThird)
  rcases hInside with ⟨depth, hDepth⟩
  let renewed : Sheet := sheet.among random clock
  have hNow : renewed.now = sheet.now := hFresh 0
  have hGrid : renewed.grid = sheet.grid := rfl
  have hSteady : renewed.Steady :=
    ⟨hRandom, fun index => (hFresh index).trans hNow.symm⟩
  have hCalm :
      renewed.Calm (renewed.visits ⟨visit.cell, .start⟩) :=
    calm_of_room hRoom ⟨rfl, rfl⟩
  rw [← unguarded_congr hGrid hNow rfl] at hDepth
  have hSame :
      renewed.result ⟨visit.cell, .start⟩ =
        sheet.result visit :=
    result_of_calm hSteady hMemoize hCalm hDepth
  refine ⟨?_, hSame⟩
  intro path hCircle
  have hStop :=
    hUnstopped visit hVisit _ (hSame.symm.trans hCircle)
  cases hStop

/-
  A sheet whose first cell tries a function that does not
  exist, and that has room for one more cell than formulas.
-/
def retrying : Sheet where
  grid :=
    [[some "=IFERROR(B1&NO(),B1)", some "=C1", some "x"]]
  settings := ⟨3, 10, false, false, 1⟩
  surroundings := .still

/-
  The second cell comes to its own value inside the attempt
  and in the fallback.
-/
theorem nested_result_of_retrying :
    retrying.settings.memoize = false ∧
    (∀ cell, ¬retrying.grid.IsRandomAt cell) ∧
    retrying.grid.formulaCells.length + 1 ≤
      retrying.settings.maxDepth ∧
    retrying.result ⟨⟨0, 0⟩, .start⟩ = .ok (.text "x") ∧
    ∀ visit ∈ retrying.visits ⟨⟨0, 0⟩, .start⟩,
      (∀ path,
        retrying.result ⟨visit.cell, .start⟩ ≠
          .error (.circular path)) ∧
      retrying.result ⟨visit.cell, .start⟩ =
        retrying.result visit := by
  have hRandom :
      ∀ cell, ¬retrying.grid.IsRandomAt cell :=
    Grid.not_isRandomAt (by decide +kernel)
  have hRoom :
      retrying.grid.formulaCells.length + 1 ≤
        retrying.settings.maxDepth := by
    decide +kernel
  have hValue :
      retrying.result ⟨⟨0, 0⟩, .start⟩ =
        .ok (.text "x") := by
    decide +kernel
  refine ⟨rfl, hRandom, hRoom, hValue, ?_⟩
  intro visit hVisit
  have hFresh :
      ∀ index,
        retrying.surroundings.clock index =
          retrying.surroundings.clock 0 :=
    fun _ => rfl
  exact nested_result_of_value retrying rfl hRandom hFresh
    hRoom hValue hVisit retrying.surroundings.random hFresh

end Sheet

end Spreadsheet
