import Spreadsheet.Evaluation.Inquiry
import Std.Data.ExtTreeSet.Lemmas
import Std.Data.TreeMap

/-
  Runs of an evaluation.

  A run has surroundings that it cannot change, a source of
  random numbers, a clock and a memory that has place for
  texts of some lengths, and a progress that it changes.
  Progress is kept also when the run fails.  It holds the
  values of cells that are known, the cells whose evaluation
  has begun and not ended, and how often the surroundings
  were asked.

  Key definitions include:
    * `Spreadsheet.Surroundings`
    * `Spreadsheet.Progress`
    * `Spreadsheet.Run`
    * `Spreadsheet.Run.outcome`
    * `Spreadsheet.Inquiry.run`
-/

------------------------------------------------------------
-- Surroundings And Progress
------------------------------------------------------------

namespace Spreadsheet

/-
  What an evaluation finds outside the grid: the random
  numbers in the order they are drawn, the times in the order
  the clock is read, and the memory, which has place for texts
  and rows of some lengths.
-/
structure Surroundings where
  random : Nat → Float
  clock : Nat → Moment
  fits : Nat → Bool := fun length => length < Nat.pow 2 32

namespace Cell

/- The order of cells: by row, then by column. -/
def order :
    Cell → Cell → Ordering :=
  compareLex (compareOn Cell.row) (compareOn Cell.col)

instance : Std.TransCmp order :=
  inferInstanceAs (Std.TransCmp (compareLex _ _))

instance : Std.LawfulEqCmp order where
  eq_of_compare {a b} same := by
    have hParts := Ordering.then_eq_eq.mp same
    cases a
    cases b
    simp_all [compareOn]

end Cell

/- Values of cells that are known. -/
abbrev KnownValues :=
  Std.TreeMap Cell Value Cell.order

/- A set of cells. -/
abbrev CellSet :=
  Std.ExtTreeSet Cell Cell.order

/-
  What an evaluation leaves behind.  The cells that are being
  evaluated are held twice: the path has them in order, the
  innermost one first, and the busy ones are looked up when a
  cell is reached.
-/
structure Progress where
  known : KnownValues
  busy : CellSet
  path : List Cell
  drawn : Nat
  looked : Nat

namespace Progress

/- The progress before any evaluation. -/
def start : Progress := ⟨∅, ∅, [], 0, 0⟩

/- One more random number was drawn. -/
def afterDraw
    (progress : Progress) :
    Progress :=
  { progress with drawn := progress.drawn + 1 }

/- The clock was looked at once more. -/
def afterLook
    (progress : Progress) :
    Progress :=
  { progress with looked := progress.looked + 1 }

end Progress

/- An evaluation; its progress outlives its failure. -/
abbrev Run := ExceptT Failure (StateM Progress)

end Spreadsheet

------------------------------------------------------------
-- Steps Of A Run
------------------------------------------------------------

namespace Spreadsheet

namespace Run

/- The outcome and the progress of a run. -/
def outcome
    {α : Type}
    (run : Run α)
    (progress : Progress) :
    Except Failure α × Progress :=
  run progress

/- A computation that makes no progress. -/
def ofExcept
    {α : Type}
    (result : Except Failure α) :
    Run α :=
  ExceptT.mk (pure result)

/- Draw the next random number. -/
def draw
    (surroundings : Surroundings) :
    Run Float := do
  let progress ← get
  set progress.afterDraw
  return surroundings.random progress.drawn

/- Look at the clock. -/
def look
    (surroundings : Surroundings) :
    Run Moment := do
  let progress ← get
  set progress.afterLook
  return surroundings.clock progress.looked

end Run

namespace Inquiry

/- Make an inquiry: its questions are answered in a run. -/
def run
    {α : Type}
    (surroundings : Surroundings)
    (resolve : Cell → Run Value) :
    Inquiry α → Run α
  | settled result => Run.ofExcept result
  | asking cell next => do
      let answer ← observing (resolve cell)
      (next answer).run surroundings resolve
  | drawing next => do
      let random ← Run.draw surroundings
      (next random).run surroundings resolve
  | dating next => do
      let now ← Run.look surroundings
      (next now).run surroundings resolve
  | fitting length next =>
      (next (surroundings.fits length)).run surroundings
        resolve
termination_by structural inquiry => inquiry

end Inquiry

end Spreadsheet
