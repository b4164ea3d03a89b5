import Spreadsheet.Proofs.Sheet.Found

/-
  When evaluations succeed.

  Where the references that a cell reaches run in no circle
  and on no path that is too long, nothing is stopped.  The
  converse holds if nothing is caught: then a value comes only
  after every reference was followed, in every way in which it
  is reached, so that a circle or a long path would have been
  met.

  Key definitions include:
    * `Spreadsheet.Grid.AcyclicFrom`
    * `Spreadsheet.Grid.PathsWithin`
    * `Spreadsheet.Sheet.Thorough`

  Main results:
    * `Spreadsheet.Sheet.unstopped_of_acyclicFrom`
    * `Spreadsheet.Sheet.acyclicFrom_of_value`
    * `Spreadsheet.Sheet.pathsWithin_of_value`
    * `Spreadsheet.Sheet.success_of_references`
-/

------------------------------------------------------------
-- Circles And Paths
------------------------------------------------------------

namespace Spreadsheet

namespace Grid

/- No cell that is reached leads back to itself. -/
def AcyclicFrom
    (grid : Grid)
    (cell : Cell) : Prop :=
  ∀ other, grid.Reaches cell other →
    ¬Relation.TransGen grid.Refers other other

/- No path of references from a cell has too many cells. -/
def PathsWithin
    (grid : Grid)
    (limit : Nat)
    (cell : Cell) : Prop :=
  ∀ rest, (cell :: rest).IsChain grid.Refers →
    (cell :: rest).length ≤ limit

variable {grid : Grid}
variable {cell other : Cell}
variable {limit : Nat}

theorem AcyclicFrom.of_reaches
    (hAcyclic : grid.AcyclicFrom cell)
    (hReaches : grid.Reaches cell other) :
    grid.AcyclicFrom other :=
  fun third hThird => hAcyclic third (hReaches.trans hThird)

/- Paths from a cell that is reached are no longer. -/
theorem PathsWithin.of_reaches
    (hPaths : grid.PathsWithin limit cell)
    (hReaches : grid.Reaches cell other) :
    grid.PathsWithin limit other := by
  induction hReaches with
  | refl => exact hPaths
  | @tail middle next hReaches hRefers ih =>
      intro rest hChain
      have hLonger :=
        ih (next :: rest)
          (List.isChain_cons_cons.mpr ⟨hRefers, hChain⟩)
      exact Nat.le_of_succ_le hLonger

end Grid

namespace Sheet

variable {sheet : Sheet}
variable {visit other : Visit}

/-
  Without circles and long paths nothing is stopped: a circle
  would be one of references, and a path without room would be
  one from the first cell.
-/
theorem unstopped_of_acyclicFrom
    (hIdle : visit.progress.Idle)
    (hAcyclic : sheet.grid.AcyclicFrom visit.cell)
    (hPaths : sheet.grid.PathsWithin sheet.settings.maxDepth
      visit.cell)
    (hOther : other ∈ sheet.visits visit) :
    Unstopped (sheet.result other) := by
  refine unstopped_of_no_stop ?_ hOther
  intro source hSource failure hStops
  have hTrail := trail_of_mem_visits hIdle hSource
  cases hStops with
  | circle hBusy =>
      have hGuarded :=
        guarded_of_mem_visits (hIdle.guarded _) hSource
      have hPath :=
        (hGuarded.mem_busy_iff source.cell).mp hBusy
      exact hAcyclic source.cell hTrail.reaches
        (hTrail.transGen_of_mem hPath)
  | full hFull =>
      rcases hTrail.exists_rest with ⟨rest, hRest⟩
      have hChain := hTrail.isChain
      rw [hRest] at hChain
      have hLength := hPaths rest hChain
      rw [← hRest, List.length_append, List.length_reverse,
        List.length_singleton] at hLength
      omega

end Sheet

end Spreadsheet

------------------------------------------------------------
-- Values Where Nothing Is Caught
------------------------------------------------------------

namespace Spreadsheet

namespace Sheet

/-
  A visit without known values comes to a value, and nothing
  is caught in the cells that it reaches.
-/
structure Thorough
    (sheet : Sheet)
    (visit : Visit) : Prop where
  memoize_eq : sheet.settings.memoize = false
  unknown : visit.progress.known = ∅
  uncaught : ∀ cell, sheet.grid.Reaches visit.cell cell →
    ¬sheet.grid.CallsAt .ifError cell
  value : ∃ value, sheet.result visit = .ok value

namespace Thorough

variable {sheet : Sheet}
variable {visit inner other : Visit}

/- What is asked about on the way to a value has a value. -/
theorem of_inner
    (hThorough : sheet.Thorough visit)
    (hInner : inner ∈ sheet.innerVisits visit) :
    sheet.Thorough inner where
  memoize_eq := hThorough.memoize_eq
  unknown :=
    (sameKnown_of_mem_innerVisits hThorough.memoize_eq
      hInner).trans hThorough.unknown
  uncaught cell hReaches :=
    hThorough.uncaught cell
      ((Grid.Reaches.of_refers
        (refers_of_mem_innerVisits hInner)).trans hReaches)
  value := by
    rcases hThorough.value with ⟨value, hValue⟩
    exact exists_value_of_inner
      (hThorough.uncaught visit.cell (.refl _ _)) hValue hInner

/- All visits on the way to a value have values. -/
theorem of_mem_visits
    (hThorough : sheet.Thorough visit)
    (hOther : other ∈ sheet.visits visit) :
    sheet.Thorough other :=
  visits_induction (motive := sheet.Thorough)
    (fun _ _ hMiddle hInner => hMiddle.of_inner hInner)
    hThorough hOther

theorem unstopped
    (hThorough : sheet.Thorough visit) :
    Unstopped (sheet.result visit) := by
  rcases hThorough.value with ⟨value, hValue⟩
  rw [hValue]
  exact .of_ok value

theorem begins
    (hThorough : sheet.Thorough visit) :
    sheet.Begins visit :=
  begins_of_unstopped hThorough.unknown hThorough.unstopped

/- Every reference of a cell with a value was followed. -/
theorem exists_inner
    (hThorough : sheet.Thorough visit)
    {cell : Cell}
    (hRefers : sheet.grid.Refers visit.cell cell) :
    ∃ inner ∈ sheet.visits visit, inner.cell = cell ∧
      inner.progress.path =
        visit.cell :: visit.progress.path := by
  rcases hThorough.value with ⟨value, hValue⟩
  rcases exists_inner_of_refers hThorough.begins
      (hThorough.uncaught visit.cell (.refl _ _)) hValue
      hRefers with ⟨inner, hInner, hCell⟩
  exact ⟨inner,
    mem_visits_of_mem_innerVisits (mem_visits_self visit)
      hInner,
    hCell, path_of_mem_innerVisits hInner⟩

/- Every path of references was followed to its end. -/
theorem exists_of_isChain
    (hThorough : sheet.Thorough visit)
    {rest : List Cell}
    (hChain : (visit.cell :: rest).IsChain sheet.grid.Refers) :
    ∃ last ∈ sheet.visits visit,
      last.progress.path.length =
        visit.progress.path.length + rest.length := by
  induction rest generalizing visit with
  | nil => exact ⟨visit, mem_visits_self visit, rfl⟩
  | cons cell rest ih =>
      rw [List.isChain_cons_cons] at hChain
      rcases hThorough.exists_inner hChain.1 with
        ⟨inner, hInner, rfl, hPath⟩
      rcases ih (hThorough.of_mem_visits hInner) hChain.2 with
        ⟨last, hLast, hLength⟩
      refine ⟨last, visits_subset hInner hLast, ?_⟩
      rw [hLength, hPath, List.length_cons, List.length_cons]
      omega

/- Every cell that is reached was visited, below the path. -/
theorem exists_of_reaches
    (hThorough : sheet.Thorough visit)
    {cell : Cell}
    (hReaches : sheet.grid.Reaches visit.cell cell) :
    ∃ last ∈ sheet.visits visit, last.cell = cell ∧
      visit.progress.path <:+ last.progress.path := by
  induction hReaches with
  | refl =>
      exact ⟨visit, mem_visits_self visit, rfl,
        List.suffix_refl _⟩
  | tail hReaches hRefers ih =>
      rcases ih with ⟨middle, hMiddle, rfl, hSuffix⟩
      rcases (hThorough.of_mem_visits hMiddle).exists_inner
          hRefers with ⟨last, hLast, hCell, hPath⟩
      refine ⟨last, visits_subset hMiddle hLast, hCell, ?_⟩
      rw [hPath]
      exact hSuffix.trans (List.suffix_cons _ _)

end Thorough

variable {sheet : Sheet}
variable {visit : Visit}

/-
  A circle that is reached would have been met, since its
  references were followed until a cell was busy.
-/
theorem acyclicFrom_of_value
    (hIdle : visit.progress.Idle)
    (hThorough : sheet.Thorough visit) :
    sheet.grid.AcyclicFrom visit.cell := by
  intro cell hReaches hCircle
  rcases hThorough.exists_of_reaches hReaches with
    ⟨first, hFirst, rfl, -⟩
  rcases Relation.TransGen.head'_iff.mp hCircle with
    ⟨next, hRefers, hBack⟩
  rcases (hThorough.of_mem_visits hFirst).exists_inner
      hRefers with ⟨inner, hInner, rfl, hPath⟩
  have hInnerWay := visits_subset hFirst hInner
  rcases (hThorough.of_mem_visits hInnerWay).exists_of_reaches
      hBack with ⟨last, hLast, hCell, hSuffix⟩
  have hLastWay := visits_subset hInnerWay hLast
  have hGuarded :=
    guarded_of_mem_visits (hIdle.guarded _) hLastWay
  have hOnPath : last.cell ∈ last.progress.path := by
    rw [hCell]
    apply hSuffix.subset
    rw [hPath]
    exact List.mem_cons_self
  exact (hThorough.of_mem_visits hLastWay).begins.1.2
    ((hGuarded.mem_busy_iff last.cell).mpr hOnPath)

/- A path that is too long would have been without room. -/
theorem pathsWithin_of_value
    (hThorough : sheet.Thorough visit) :
    sheet.grid.PathsWithin sheet.settings.maxDepth
      visit.cell := by
  intro rest hChain
  rcases hThorough.exists_of_isChain hChain with
    ⟨last, hLast, hLength⟩
  have hRoom := (hThorough.of_mem_visits hLast).begins.2
  rw [List.length_cons]
  omega

/-
  Where nothing is random, a cell on the way to a value comes
  to the same value on its own, whenever the clock shows the
  same.
-/
theorem result_of_fresh
    (hIdle : visit.progress.Idle)
    (hThorough : sheet.Thorough visit)
    (hRandom : ∀ cell, sheet.grid.Reaches visit.cell cell →
      ¬sheet.grid.IsRandomAt cell)
    (hClock : ∀ index,
      sheet.surroundings.clock index = sheet.now)
    (random : Nat → Float)
    {clock : Nat → Moment}
    (hFresh : ∀ index, clock index = sheet.now)
    {other : Visit}
    (hOther : other ∈ sheet.visits visit) :
    (sheet.among random clock).result ⟨other.cell, .start⟩ =
      sheet.result other := by
  have hReaches := reaches_of_mem_visits hOther
  have hThoroughOther := hThorough.of_mem_visits hOther
  have hRandomBelow :
      ∀ cell, sheet.grid.Reaches other.cell cell →
        ¬sheet.grid.IsRandomAt cell :=
    not_isRandomAt_below hRandom hOther
  have hInside : sheet.Found other :=
    found_of_unstopped hClock hRandomBelow
      (.of_unknown hThoroughOther.unknown)
      fun third hThird =>
        (hThoroughOther.of_mem_visits hThird).unstopped
  -- The fresh evaluation finds it too, because it is not
  -- stopped either.
  let renewed : Sheet := sheet.among random clock
  let start : Visit := ⟨other.cell, .start⟩
  have hAcyclic : renewed.grid.AcyclicFrom start.cell :=
    (acyclicFrom_of_value hIdle hThorough).of_reaches hReaches
  have hPaths :
      renewed.grid.PathsWithin renewed.settings.maxDepth
        start.cell :=
    (pathsWithin_of_value hThorough).of_reaches hReaches
  have hNow : renewed.now = sheet.now := hFresh 0
  have hAlone : renewed.Found start :=
    found_of_unstopped
      (fun index => (hFresh index).trans hNow.symm)
      hRandomBelow (.of_unknown rfl)
      fun third hThird =>
        unstopped_of_acyclicFrom ⟨rfl, rfl⟩ hAcyclic hPaths
          hThird
  rcases hInside with ⟨depth, hDepth⟩
  rcases hAlone with ⟨depth', hDepth'⟩
  have hGrid : renewed.grid = sheet.grid := rfl
  rw [unguarded_congr hGrid hNow rfl] at hDepth'
  exact unguarded_unique hDepth' hDepth

/-
  If the references that a cell reaches run in no circle and
  on no path of too many cells, nothing is stopped on the way
  to its result.  If none of the formulas catches failures and
  the cell has a value, then they do not, and where nothing is
  random and the clock stands still, every cell that is
  reached has a value on its own.
-/
theorem success_of_references
    (sheet : Sheet)
    (hMemoize : sheet.settings.memoize = false)
    (cell : Cell) :
    (sheet.grid.AcyclicFrom cell →
      sheet.grid.PathsWithin sheet.settings.maxDepth cell →
        ∀ visit ∈ sheet.visits ⟨cell, .start⟩,
          Unstopped (sheet.result visit)) ∧
    ((∀ other, sheet.grid.Reaches cell other →
        ¬sheet.grid.CallsAt .ifError other) →
      ∀ value, sheet.result ⟨cell, .start⟩ = .ok value →
        sheet.grid.AcyclicFrom cell ∧
        sheet.grid.PathsWithin sheet.settings.maxDepth cell ∧
        ((∀ other, sheet.grid.Reaches cell other →
            ¬sheet.grid.IsRandomAt other) →
          (∀ index, sheet.surroundings.clock index =
            sheet.surroundings.clock 0) →
          ∀ random clock,
            (∀ index,
              clock index = sheet.surroundings.clock 0) →
            ∀ other, sheet.grid.Reaches cell other →
              ∃ answer,
                (sheet.among random clock).result
                    ⟨other, .start⟩ =
                  .ok answer)) := by
  have hIdle : Progress.start.Idle := ⟨rfl, rfl⟩
  constructor
  · intro hAcyclic hPaths visit hVisit
    exact unstopped_of_acyclicFrom hIdle hAcyclic hPaths
      hVisit
  · intro hUncaught value hValue
    have hThorough : sheet.Thorough ⟨cell, .start⟩ :=
      ⟨hMemoize, rfl, hUncaught, value, hValue⟩
    refine ⟨acyclicFrom_of_value hIdle hThorough,
      pathsWithin_of_value hThorough, ?_⟩
    intro hRandom hClock random clock hFresh other hReaches
    rcases hThorough.exists_of_reaches hReaches with
      ⟨visit, hVisit, rfl, -⟩
    rcases (hThorough.of_mem_visits hVisit).value with
      ⟨answer, hAnswer⟩
    refine ⟨answer, ?_⟩
    rw [← hAnswer]
    exact result_of_fresh hIdle hThorough hRandom hClock
      random hFresh hVisit

/-
  A sheet with two ways from the first cell to the third, the
  longer of which has as many cells as are allowed.
-/
def twoWays : Sheet where
  grid := [[some "=B1&C1", some "=C1", some "x"]]
  settings := ⟨3, 10, false, false, 1⟩
  surroundings := .still

/- That the first cell has a value tells that both ways end. -/
theorem success_of_twoWays :
    twoWays.settings.memoize = false ∧
    twoWays.result ⟨⟨0, 0⟩, .start⟩ = .ok (.text "xx") ∧
    twoWays.grid.AcyclicFrom ⟨0, 0⟩ ∧
    twoWays.grid.PathsWithin 3 ⟨0, 0⟩ ∧
    (∀ visit ∈ twoWays.visits ⟨⟨0, 0⟩, .start⟩,
      Unstopped (twoWays.result visit)) ∧
    ∀ other, twoWays.grid.Reaches ⟨0, 0⟩ other →
      ∃ answer,
        twoWays.result ⟨other, .start⟩ = .ok answer := by
  have hUncaught :
      ∀ other, twoWays.grid.Reaches ⟨0, 0⟩ other →
        ¬twoWays.grid.CallsAt .ifError other :=
    fun other _ => Grid.not_callsAt (by decide +kernel) other
  have hRandom :
      ∀ other, twoWays.grid.Reaches ⟨0, 0⟩ other →
        ¬twoWays.grid.IsRandomAt other :=
    fun other _ =>
      Grid.not_isRandomAt (by decide +kernel) other
  have hValue :
      twoWays.result ⟨⟨0, 0⟩, .start⟩ =
        .ok (.text "xx") := by
    decide +kernel
  rcases success_of_references twoWays rfl ⟨0, 0⟩ with
    ⟨hUnstopped, hStatic⟩
  rcases hStatic hUncaught _ hValue with
    ⟨hAcyclic, hPaths, hAlone⟩
  exact ⟨rfl, hValue, hAcyclic, hPaths,
    hUnstopped hAcyclic hPaths,
    hAlone hRandom (fun _ => rfl) twoWays.surroundings.random
      twoWays.surroundings.clock fun _ => rfl⟩

end Sheet

end Spreadsheet
