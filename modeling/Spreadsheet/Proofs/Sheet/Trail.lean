import Mathlib.Data.List.Chain
import Spreadsheet.Proofs.Sheet.Reach
import Spreadsheet.Proofs.Sheet.Stop

/-
  Trails of references.

  The path of a visit is a trail of references, from the cell
  where the evaluation began to the cell that is visited.  A
  trail without repetitions that is stopped where it comes
  back to itself has a circle at its end.

  Key definitions include:
    * `Spreadsheet.Grid.Trail`

  Main results:
    * `Spreadsheet.Sheet.trail_of_mem_visits`
    * `Spreadsheet.Grid.Trail.isChain`
    * `Spreadsheet.Grid.Trail.transGen_of_mem`
-/

------------------------------------------------------------
-- Trails
------------------------------------------------------------

namespace Spreadsheet

namespace Grid

/-
  References lead from a cell to another one over the cells of
  a path, the last of which comes first.
-/
inductive Trail
    (grid : Grid)
    (start : Cell) :
    Cell → List Cell → Prop where
  | start : Trail grid start start []
  | step
      {cell other : Cell}
      {path : List Cell}
      (hTrail : Trail grid start cell path)
      (hRefers : grid.Refers cell other) :
      Trail grid start other (cell :: path)

namespace Trail

variable {grid : Grid}
variable {start cell above : Cell}
variable {path : List Cell}

/- The cell at the end of a trail is reached. -/
theorem reaches
    (hTrail : grid.Trail start cell path) :
    grid.Reaches start cell := by
  induction hTrail with
  | start => exact .refl grid start
  | step hTrail hRefers ih => exact ih.step hRefers

/- Each cell on the path leads to the end of the trail. -/
theorem transGen_of_mem
    (hTrail : grid.Trail start cell path)
    (hAbove : above ∈ path) :
    Relation.TransGen grid.Refers above cell := by
  induction hTrail with
  | start => simp at hAbove
  | step hTrail hRefers ih =>
      rcases List.mem_cons.mp hAbove with rfl | hAbove
      · exact .single hRefers
      · exact (ih hAbove).tail hRefers

/- Each cell on the path refers to another cell. -/
theorem exists_refers_of_mem
    (hTrail : grid.Trail start cell path)
    (hAbove : above ∈ path) :
    ∃ other, grid.Refers above other := by
  rcases Relation.TransGen.head'_iff.mp
      (hTrail.transGen_of_mem hAbove) with
    ⟨other, hRefers, -⟩
  exact ⟨other, hRefers⟩

/- A trail begins at its start. -/
theorem exists_rest
    (hTrail : grid.Trail start cell path) :
    ∃ rest, path.reverse ++ [cell] = start :: rest := by
  induction hTrail with
  | start => exact ⟨[], rfl⟩
  | @step cell other path hTrail hRefers ih =>
      rcases ih with ⟨rest, hRest⟩
      refine ⟨rest ++ [other], ?_⟩
      rw [List.reverse_cons, hRest, List.cons_append]

/- Along a trail each cell refers to the next one. -/
theorem isChain
    (hTrail : grid.Trail start cell path) :
    (path.reverse ++ [cell]).IsChain grid.Refers := by
  induction hTrail with
  | start => exact .singleton _
  | @step cell other path hTrail hRefers ih =>
      rw [List.reverse_cons, List.append_assoc,
        List.singleton_append,
        List.isChain_append_cons_cons]
      exact ⟨ih, hRefers, .singleton _⟩

end Trail

end Grid

namespace Sheet

variable {sheet : Sheet}
variable {visit inner other : Visit}

/- An evaluation asks about what its formula refers to. -/
theorem refers_of_mem_innerVisits
    (hInner : inner ∈ sheet.innerVisits visit) :
    sheet.grid.Refers visit.cell inner.cell := by
  have hBegins := (sameGuard_of_mem_innerVisits hInner).1
  rw [innerVisits_eq hBegins] at hInner
  exact (sheet.inquiry_within visit.cell).of_mem_questions
    hInner

/- The path of a visit on the way is a trail to its cell. -/
theorem trail_of_mem_visits
    (hIdle : visit.progress.Idle)
    (hOther : other ∈ sheet.visits visit) :
    sheet.grid.Trail visit.cell other.cell
      other.progress.path := by
  refine visits_induction
    (motive := fun other =>
      sheet.grid.Trail visit.cell other.cell
        other.progress.path)
    ?_ ?_ hOther
  · intro middle inner hTrail hInner
    rw [path_of_mem_innerVisits hInner]
    exact hTrail.step (refers_of_mem_innerVisits hInner)
  · rw [hIdle.path_eq]
    exact .start

/- Visits on the way are to cells that are reached. -/
theorem reaches_of_mem_visits
    (hOther : other ∈ sheet.visits visit) :
    sheet.grid.Reaches visit.cell other.cell :=
  visits_induction
    (motive := fun other =>
      sheet.grid.Reaches visit.cell other.cell)
    (fun _ _ hReaches hInner =>
      hReaches.step (refers_of_mem_innerVisits hInner))
    (.refl sheet.grid visit.cell) hOther

end Sheet

end Spreadsheet
