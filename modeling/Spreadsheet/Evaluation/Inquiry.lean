import Spreadsheet.Address
import Spreadsheet.Function.Answer

/-
  Inquiries.

  What a formula comes to depends on other cells, on random
  numbers, on the time and on what the memory has place for.
  An inquiry asks for them one by one, and each answer decides
  how it goes on, until the result is settled.  The answer to a
  question about a cell may be a failure; it is up to the
  inquiry what follows from that.

  Key definitions include:
    * `Spreadsheet.Inquiry`
    * `Spreadsheet.Inquiry.andThen`
    * `Spreadsheet.Inquiry.orElse`
    * `Spreadsheet.Inquiry.ofAnswer`
    * `Spreadsheet.Inquiry.ofLabel`
    * `Spreadsheet.Inquiry.ofArea`
-/

------------------------------------------------------------
-- Inquiries
------------------------------------------------------------

namespace Spreadsheet

/- A result, or a question and what follows from its answer. -/
inductive Inquiry (α : Type) where
  | settled (result : Except Failure α)
  | asking
      (cell : Cell)
      (next : Except Failure Value → Inquiry α)
  | drawing (next : Float → Inquiry α)
  | dating (next : Moment → Inquiry α)
  | fitting (length : Nat) (next : Bool → Inquiry α)

namespace Inquiry

/- Go on with the result of an inquiry, also if it failed. -/
def andThen
    {α β : Type} :
    Inquiry α → (Except Failure α → Inquiry β) → Inquiry β
  | settled result, follow => follow result
  | asking cell next, follow =>
      asking cell fun answer => (next answer).andThen follow
  | drawing next, follow =>
      drawing fun random => (next random).andThen follow
  | dating next, follow =>
      dating fun now => (next now).andThen follow
  | fitting length next, follow =>
      fitting length fun fits => (next fits).andThen follow
termination_by structural inquiry => inquiry

/- Go on with the value of an inquiry; a failure is final. -/
def onValue
    {α β : Type}
    (follow : α → Inquiry β) :
    Except Failure α → Inquiry β
  | .ok value => follow value
  | .error failure => settled (.error failure)

instance : Monad Inquiry where
  pure value := settled (.ok value)
  bind inquiry follow := inquiry.andThen (onValue follow)

/- Go on in another way if the failure can be caught. -/
def rescue
    {α : Type}
    (fallback : Inquiry α) :
    Except Failure α → Inquiry α
  | .ok value => settled (.ok value)
  | .error failure =>
      if failure.isCaught then
        fallback
      else
        settled (.error failure)

/- Inquire in another way after a failure that is caught. -/
def orElse
    {α : Type}
    (inquiry fallback : Inquiry α) :
    Inquiry α :=
  inquiry.andThen (rescue fallback)

end Inquiry

end Spreadsheet

------------------------------------------------------------
-- Questions
------------------------------------------------------------

namespace Spreadsheet

namespace Inquiry

/- Find out what an answer waits for. -/
def ofAnswer :
    Answer → Inquiry Value
  | .settled result => settled result
  | .drawing result =>
      drawing fun random => settled (result random)
  | .dating result => dating fun now => settled (result now)
  | .fitting length result =>
      fitting length fun fits => settled (result fits)

/- The value of a cell. -/
def ofCell
    (cell : Cell) :
    Inquiry Value :=
  asking cell settled

/- The value of the cell that a label names. -/
def ofLabel
    (label : String) :
    Inquiry Value := do
  let cell ← settled
    ((Cell.ofLabel label).mapError Failure.label)
  ofCell cell

/- The values of the cells of an area, row by row. -/
def ofArea
    (text : String) :
    Inquiry (List Value) := do
  let area ← settled
    ((Area.ofText text).mapError Failure.label)
  area.cells.mapM ofCell

end Inquiry

end Spreadsheet
