import Mathlib.Logic.Relation
import Spreadsheet.Proofs.Grid.Cells
import Spreadsheet.Proofs.Sheet.Guard

/-
  What the value of a cell depends on.

  A cell reaches the cells that its formula refers to, those
  that their formulas refer to, and so on.  Two evaluations
  agree if they start alike and find the same raw texts in the
  cells that are reached; what else is in the grid is never
  looked at.

  Key definitions include:
    * `Spreadsheet.Grid.Reaches`
    * `Spreadsheet.Grid.filled`
    * `Spreadsheet.Progress.Shifted`

  Main results:
    * `Spreadsheet.Sheet.evaluateCell_agree`
    * `Spreadsheet.Grid.read_filled`
    * `Spreadsheet.Sheet.outcome_eq_of_reached_eq`
-/

------------------------------------------------------------
-- Shifted Progress
------------------------------------------------------------

namespace Spreadsheet

namespace Progress

/-
  Two progresses differ only in how often the surroundings
  were asked, the first one so many times more.
-/
structure Shifted
    (drawn looked : Nat)
    (p q : Progress) : Prop where
  known_eq : p.known = q.known
  busy_eq : p.busy = q.busy
  path_eq : p.path = q.path
  drawn_eq : p.drawn = drawn + q.drawn
  looked_eq : p.looked = looked + q.looked

namespace Shifted

variable {drawn looked : Nat}
variable {p q : Progress}

theorem refl
    (progress : Progress) :
    Shifted 0 0 progress progress :=
  ⟨rfl, rfl, rfl, (Nat.zero_add _).symm,
    (Nat.zero_add _).symm⟩

/- Without a shift the two are the same. -/
theorem eq_of_zero
    (hShifted : Shifted 0 0 p q) :
    p = q := by
  rcases hShifted with ⟨hKnown, hBusy, hPath, hDrawn, hLooked⟩
  rw [Nat.zero_add] at hDrawn hLooked
  cases p
  cases q
  simp_all only

theorem opens
    (hShifted : Shifted drawn looked p q)
    {cell : Cell}
    (hOpens : p.Opens cell) :
    q.Opens cell := by
  unfold Opens
  rw [← hShifted.known_eq, ← hShifted.busy_eq]
  exact hOpens

theorem sameGuard
    (hShifted : Shifted drawn looked p q) :
    SameGuard q p :=
  ⟨hShifted.path_eq, hShifted.busy_eq⟩

theorem enter
    (hShifted : Shifted drawn looked p q)
    (cell : Cell) :
    Shifted drawn looked (p.enter cell) (q.enter cell) where
  known_eq := hShifted.known_eq
  busy_eq := (hShifted.sameGuard.enter cell).busy_eq
  path_eq := (hShifted.sameGuard.enter cell).path_eq
  drawn_eq := hShifted.drawn_eq
  looked_eq := hShifted.looked_eq

theorem leave
    (hShifted : Shifted drawn looked p q)
    (cell : Cell) :
    Shifted drawn looked (p.leave cell) (q.leave cell) where
  known_eq := hShifted.known_eq
  busy_eq := (hShifted.sameGuard.leave cell).busy_eq
  path_eq := (hShifted.sameGuard.leave cell).path_eq
  drawn_eq := hShifted.drawn_eq
  looked_eq := hShifted.looked_eq

theorem keep
    (hShifted : Shifted drawn looked p q)
    (cell : Cell)
    (value : Value) :
    Shifted drawn looked (p.keep cell value)
      (q.keep cell value) where
  known_eq := by
    change p.known.insert cell value =
      q.known.insert cell value
    rw [hShifted.known_eq]
  busy_eq := hShifted.busy_eq
  path_eq := hShifted.path_eq
  drawn_eq := hShifted.drawn_eq
  looked_eq := hShifted.looked_eq

theorem closed
    {left right : Sheet}
    (hSettings : left.settings = right.settings)
    (hShifted : Shifted drawn looked p q)
    (cell : Cell)
    (result : Except Failure Value) :
    Shifted drawn looked (left.closed cell result p)
      (right.closed cell result q) := by
  unfold Sheet.closed
  rw [hSettings]
  split
  · split
    · exact (hShifted.leave cell).keep cell _
    · exact hShifted.leave cell
  · exact hShifted.leave cell

end Shifted

end Progress

namespace Surroundings

/-
  The surroundings when so many random numbers were drawn and
  the clock was read so many times.
-/
def advanced
    (surroundings : Surroundings)
    (drawn looked : Nat) :
    Surroundings where
  random index := surroundings.random (drawn + index)
  clock index := surroundings.clock (looked + index)
  fits := surroundings.fits

/- Advanced surroundings answer shifted questions alike. -/
theorem agree_advanced
    (surroundings : Surroundings)
    (drawn looked : Nat)
    (random : Prop) :
    surroundings.Agree (Progress.Shifted drawn looked)
      random (surroundings.advanced drawn looked) where
  random _ {p q} hShifted := by
    refine ⟨?_, { hShifted with drawn_eq := ?_ }⟩
    · rw [hShifted.drawn_eq]
      rfl
    · change p.drawn + 1 = drawn + (q.drawn + 1)
      rw [hShifted.drawn_eq]
      omega
  clock {p q} hShifted := by
    refine ⟨?_, { hShifted with looked_eq := ?_ }⟩
    · rw [hShifted.looked_eq]
      rfl
    · change p.looked + 1 = looked + (q.looked + 1)
      rw [hShifted.looked_eq]
      omega
  fits := rfl

@[simp] theorem advanced_zero
    (surroundings : Surroundings) :
    surroundings.advanced 0 0 = surroundings := by
  simp [advanced]

end Surroundings

end Spreadsheet

------------------------------------------------------------
-- Evaluations That Agree
------------------------------------------------------------

namespace Spreadsheet

namespace Sheet

variable {drawn looked : Nat}

/-
  Evaluations of a cell agree over two grids that have the
  same raw texts in a set of cells that references do not
  leave.  Random numbers matter only if a formula of these
  cells is random.
-/
theorem evaluateCell_agree
    (left right : Sheet)
    (reached : Cell → Prop)
    {random : Prop}
    (hSettings : left.settings = right.settings)
    (hSurroundings :
      left.surroundings.Agree
        (Progress.Shifted drawn looked) random
        right.surroundings)
    (hRandom : ∀ cell, reached cell →
      left.grid.IsRandomAt cell → random)
    (hClosed : ∀ cell other, reached cell →
      left.grid.Refers cell other → reached other)
    (hRead : ∀ cell, reached cell →
      left.grid.read cell = right.grid.read cell)
    {cell : Cell}
    {p : Progress}
    (hCell : reached cell)
    {q : Progress}
    (hShifted : p.Shifted drawn looked q) :
    Agree (Progress.Shifted drawn looked)
      ((left.evaluateCell cell).outcome p)
      ((right.evaluateCell cell).outcome q) := by
  induction cell, p using left.evaluateCell_cases
    generalizing q with
  | known cell p value hKnown =>
      have hKnown' : q.known[cell]? = some value := by
        rw [← hShifted.known_eq, hKnown]
      rw [left.outcome_known hKnown,
        right.outcome_known hKnown']
      exact ⟨rfl, hShifted⟩
  | busy cell p hKnown hBusy =>
      have hKnown' : q.known[cell]? = none := by
        rw [← hShifted.known_eq, hKnown]
      have hBusy' : cell ∈ q.busy := by
        rw [← hShifted.busy_eq]
        exact hBusy
      rw [left.outcome_busy hKnown hBusy,
        right.outcome_busy hKnown' hBusy']
      refine ⟨?_, hShifted⟩
      simp only [Progress.circle, hShifted.path_eq]
  | full cell p hOpens hFull =>
      have hFull' :
          right.settings.maxDepth ≤ q.path.length := by
        rwa [← hShifted.path_eq, ← hSettings]
      rw [left.outcome_full hOpens hFull,
        right.outcome_full (hShifted.opens hOpens) hFull',
        hSettings]
      exact ⟨rfl, hShifted⟩
  | begun cell p hOpens hRoom ih =>
      have hRoom' :
          q.path.length < right.settings.maxDepth := by
        rwa [← hShifted.path_eq, ← hSettings]
      have hInquiry :
          right.inquiry cell = left.inquiry cell := by
        unfold inquiry
        rw [hRead cell hCell]
      have hInside :
          Agree (Progress.Shifted drawn looked)
            ((left.resolve (left.inquiry cell)).outcome
              (p.enter cell))
            ((right.resolve (left.inquiry cell)).outcome
              (q.enter cell)) := by
        refine Inquiry.run_agree hSurroundings
          ((left.inquiry_within cell).mono
            (fun _ hRefers => hRefers) (hRandom cell hCell))
          (hShifted.enter cell) ?_
        intro visit hVisit hRefers q' hShifted'
        have hBegins : left.Begins ⟨cell, p⟩ :=
          ⟨hOpens, hRoom⟩
        rw [← innerVisits_eq hBegins] at hVisit
        exact ih visit.cell visit.progress
          (path_of_mem_innerVisits hVisit)
          (hClosed cell visit.cell hCell hRefers) hShifted'
      rw [left.outcome_begun hOpens hRoom,
        right.outcome_begun (hShifted.opens hOpens) hRoom',
        hInquiry]
      rcases hInside with ⟨hResult, hAfter⟩
      refine ⟨hResult, ?_⟩
      simp only [← hResult]
      exact hAfter.closed hSettings cell _

end Sheet

end Spreadsheet

------------------------------------------------------------
-- Reached Cells
------------------------------------------------------------

namespace Spreadsheet

namespace Grid

/- A cell reaches another one by references in formulas. -/
def Reaches
    (grid : Grid) :
    Cell → Cell → Prop :=
  Relation.ReflTransGen grid.Refers

theorem Reaches.refl
    (grid : Grid)
    (cell : Cell) :
    grid.Reaches cell cell :=
  Relation.ReflTransGen.refl

theorem Reaches.step
    {grid : Grid}
    {cell other next : Cell}
    (hReaches : grid.Reaches cell other)
    (hRefers : grid.Refers other next) :
    grid.Reaches cell next :=
  Relation.ReflTransGen.tail hReaches hRefers

theorem Reaches.trans
    {grid : Grid}
    {cell other next : Cell}
    (hFirst : grid.Reaches cell other)
    (hSecond : grid.Reaches other next) :
    grid.Reaches cell next :=
  Relation.ReflTransGen.trans hFirst hSecond

theorem Reaches.of_refers
    {grid : Grid}
    {cell other : Cell}
    (hRefers : grid.Refers cell other) :
    grid.Reaches cell other :=
  Relation.ReflTransGen.single hRefers

/-
  A rectangle in which missing rows, short rows and cells
  without a text are filled up with empty texts.
-/
def filled
    (grid : Grid)
    (rows cols : Nat) :
    Grid :=
  (List.range rows).map fun row : Nat =>
    some ((List.range cols).map fun col : Nat =>
      some (grid.read ⟨row, col⟩))

theorem columns_filled_le
    (grid : Grid)
    (rows cols : Nat) :
    (grid.filled rows cols).columns ≤ cols := by
  have hWidths :
      (grid.filled rows cols).map width =
        List.replicate rows cols := by
    rw [filled, List.map_map, List.eq_replicate_iff]
    simp [width]
  unfold columns
  rw [hWidths, List.foldl_max, List.max?_replicate]
  split <;> simp

/- To fill up a grid changes nothing that can be read. -/
theorem read_filled
    (grid : Grid)
    {rows cols : Nat}
    (hRows : grid.length ≤ rows)
    (hCols : grid.columns ≤ cols)
    (cell : Cell) :
    (grid.filled rows cols).read cell = grid.read cell := by
  by_cases hOutside :
      cell.row < 0 ∨ cell.col < 0 ∨
        rows ≤ cell.row.toNat ∨ cols ≤ cell.col.toNat
  · have hLength : (grid.filled rows cols).length = rows := by
      simp [filled]
    have hColumns := grid.columns_filled_le rows cols
    rw [read_outside (by omega), read_outside (by omega)]
  · have hCell :
        (⟨cell.row.toNat, cell.col.toNat⟩ : Cell) =
          cell := by
      rw [Int.toNat_of_nonneg (by omega),
        Int.toNat_of_nonneg (by omega)]
    have hInside : ¬(cell.row < 0 ∨ cell.col < 0) := by
      omega
    have hRow : cell.row.toNat < rows := by omega
    have hCol : cell.col.toNat < cols := by omega
    rw [read, if_neg hInside]
    simp only [filled, List.getElem?_map,
      List.getElem?_range hRow, List.getElem?_range hCol,
      Option.map_some, hCell]

end Grid

end Spreadsheet

------------------------------------------------------------
-- Results From Reached Cells
------------------------------------------------------------

namespace Spreadsheet

namespace Sheet

variable (settings : Settings)
variable (surroundings : Surroundings)

/-
  Fresh evaluations of a cell are the same, with all that
  they leave behind, where reached cells have the same texts.
-/
theorem outcome_start_congr
    {left right : Grid}
    {cell : Cell}
    (hRead : ∀ other, left.Reaches cell other →
      left.read other = right.read other) :
    (evaluateCell ⟨left, settings, surroundings⟩
        cell).outcome .start =
      (evaluateCell ⟨right, settings, surroundings⟩
        cell).outcome .start := by
  have hSurroundings :=
    surroundings.agree_advanced 0 0 True
  rw [Surroundings.advanced_zero] at hSurroundings
  have hAgree :=
    evaluateCell_agree
      ⟨left, settings, surroundings⟩
      ⟨right, settings, surroundings⟩
      (left.Reaches cell) rfl hSurroundings
      (fun _ _ _ => trivial)
      (fun _ _ hReaches hRefers => hReaches.step hRefers)
      hRead (.refl left cell) (.refl .start)
  exact Prod.ext hAgree.1 hAgree.2.eq_of_zero

/-
  The result of a fresh evaluation depends only on the raw
  texts of the cells that are reached.  In particular it does
  not tell empty texts from cells without a text, short rows
  and missing rows.
-/
theorem outcome_eq_of_reached_eq
    (left right : Grid)
    (cell : Cell)
    (hRead : ∀ other, left.Reaches cell other →
      left.read other = right.read other) :
    (evaluateCell ⟨left, settings, surroundings⟩
        cell).outcome .start =
      (evaluateCell ⟨right, settings, surroundings⟩
        cell).outcome .start ∧
    ∀ rows cols, right.length ≤ rows → right.columns ≤ cols →
      (evaluateCell ⟨left, settings, surroundings⟩
          cell).outcome .start =
        (evaluateCell
          ⟨right.filled rows cols, settings, surroundings⟩
          cell).outcome .start := by
  refine ⟨outcome_start_congr settings surroundings hRead, ?_⟩
  intro rows cols hRows hCols
  apply outcome_start_congr settings surroundings
  intro other hOther
  rw [Grid.read_filled right hRows hCols, hRead other hOther]

/-
  Where `A1` holds `=B1`, its value does not depend on the
  text in the row below.
-/
theorem outcome_eq_of_other_row :
    let left : Grid :=
      [[some "=B1", some "x"], [some "y"]]
    let right : Grid :=
      [[some "=B1", some "x"], [none, some "=A1"]]
    (∀ other, left.Reaches ⟨0, 0⟩ other →
      left.read other = right.read other) ∧
    ∀ settings surroundings,
      (evaluateCell ⟨left, settings, surroundings⟩
          ⟨0, 0⟩).outcome .start =
        (evaluateCell ⟨right, settings, surroundings⟩
          ⟨0, 0⟩).outcome .start := by
  have hFirst :
      Grid.formula?
          [[some "=B1", some "x"], [some "y"]] ⟨0, 0⟩ =
        some (.cell "B1") := by
    rfl
  have hSecond :
      Grid.formula?
          [[some "=B1", some "x"], [some "y"]] ⟨0, 1⟩ =
        none := by
    rfl
  have hRefers :
      ∀ other, (Expr.cell "B1").RefersTo other →
        other = ⟨0, 1⟩ := by
    intro other hOther
    have hCells : (Expr.cell "B1").cellNames = ["B1"] := by
      rfl
    have hRanges : (Expr.cell "B1").rangeNames = [] := by
      rfl
    have hLabel : Cell.ofLabel "B1" = .ok ⟨0, 1⟩ := by
      rfl
    simpa [Expr.RefersTo, hCells, hRanges, hLabel,
      eq_comm] using hOther
  intro left right
  have hReached :
      ∀ other, left.Reaches ⟨0, 0⟩ other →
        other = ⟨0, 0⟩ ∨ other = ⟨0, 1⟩ := by
    intro other hOther
    induction hOther with
    | refl => exact Or.inl rfl
    | tail hReaches hNext ih =>
        rcases hNext with ⟨formula, hFormula, hNames⟩
        rcases ih with rfl | rfl
        · cases hFirst.symm.trans hFormula
          exact Or.inr (hRefers _ hNames)
        · cases hSecond.symm.trans hFormula
  have hRead :
      ∀ other, left.Reaches ⟨0, 0⟩ other →
        left.read other = right.read other := by
    intro other hOther
    rcases hReached other hOther with rfl | rfl <;> rfl
  exact ⟨hRead, fun settings surroundings =>
    (outcome_eq_of_reached_eq settings surroundings
      left right ⟨0, 0⟩ hRead).1⟩

end Sheet

end Spreadsheet
