import Spreadsheet.Proofs.Evaluation.Formula
import Spreadsheet.Proofs.Function.Dates
import Spreadsheet.Proofs.Sheet.Held

/-
  Parts of what the clock shows.

  A formula that asks for a part of the day or of the moment
  that it is looks at the clock once.  The day has the parts
  that the clock shows in each year.  The moment has them in
  years of four digits only, since shorter years are written
  without zeros in front of them.

  Key definitions include:
    * `Spreadsheet.Call.Shows`

  Main results:
    * `Spreadsheet.Expr.value_part_of_clock`
    * `Spreadsheet.Sheet.parts_of_clock`
    * `Spreadsheet.Sheet.no_parts_of_early_moment`
-/

------------------------------------------------------------
-- Formulas That Look At The Clock
------------------------------------------------------------

namespace Spreadsheet

namespace Call

/- The functions that show what the clock shows as text. -/
inductive Shows :
    Function → (Moment → String) → Prop where
  | today : Shows .today fun now => now.date.toText
  | now : Shows .now Moment.toText

end Call

namespace Expr

open Call (AsksFor Shows)

variable {outer inner : String}
variable {function clock : Function}
variable {part : Date → Nat}
variable {shown : Moment → String}

/- Such a function looks at the clock and comes to a text. -/
theorem value_clock
    (hInner : Function.named? (upperName inner) = some clock)
    (hShows : Shows clock shown) :
    (call inner []).value =
      .dating fun now => pure (.text (shown now)) := by
  cases hShows with
  | today =>
      rw [value_call hInner nofun]
      rfl
  | now =>
      rw [value_call hInner nofun]
      rfl

/- A part of its text is asked for without another look. -/
theorem value_part_of_clock
    (hOuter :
      Function.named? (upperName outer) = some function)
    (hAsks : AsksFor function part)
    (hInner : Function.named? (upperName inner) = some clock)
    (hShows : Shows clock shown) :
    (call outer [call inner []]).value =
      .dating fun now =>
        .settled
          ((Value.text (shown now)).toDate.map fun date =>
            .ofNat (part date)) := by
  have hAnswer :
      ∀ value : Value,
        Inquiry.ofAnswer
            (Call.ofArguments function
              [.scalar value]).answer =
          .settled
            (value.toDate.map fun date =>
              .ofNat (part date)) := by
    intro value
    have hSame :
        Call.ofArguments function [.scalar value] =
          Call.on function [value] := by
      cases hAsks with
      | year => rfl
      | month => rfl
      | day => rfl
    rw [hSame, hAsks.answer_eq]
    rfl
  have hOther :
      function ≠ .ifError ∧ function ≠ .concatenate ∧
        function ≠ .substitute := by
    cases hAsks <;> decide
  rw [value_call_answered hOuter hOther.1 hOther.2.1
    hOther.2.2]
  simp only [argumentValues, value_clock hInner hShows]
  refine congrArg Inquiry.dating (funext fun now => ?_)
  exact hAnswer (.text (shown now))

end Expr

end Spreadsheet

------------------------------------------------------------
-- Parts In A Cell
------------------------------------------------------------

namespace Spreadsheet

namespace Sheet

open Call (AsksFor)

/-
  In a cell that begins a part of today is the one that the
  clock shows, and so is a part of now in a year of four
  digits.  In an earlier year the text of now is no date.
-/
theorem parts_of_clock
    (sheet : Sheet)
    (row col : Nat)
    {progress : Progress}
    (hBegins : sheet.Begins ⟨⟨row, col⟩, progress⟩)
    (hShown :
      (sheet.surroundings.clock progress.looked).IsShown)
    {function : Function}
    {part : Date → Nat}
    (hAsks : AsksFor function part)
    {body : List Char}
    {outer inner : String}
    (hBody :
      Expr.ofBody body = .ok (.call outer [.call inner []]))
    (hOuter :
      Function.named? (Expr.upperName outer) =
        some function) :
    let now := sheet.surroundings.clock progress.looked
    let found :=
      (((sheet.withFormula row col body).evaluateCell
        ⟨row, col⟩).outcome progress).1
    let clock := Function.named? (Expr.upperName inner)
    (clock = some .today →
      found = .ok (.ofNat (part now.date))) ∧
    (clock = some .now →
      (1000 ≤ now.date.year →
        found = .ok (.ofNat (part now.date))) ∧
      (now.date.year < 1000 →
        found = .error (.unreadableDate now.toText) ∧
          found.mapError Failure.display =
            .error "#VALUE!")) := by
  intro now found clock
  have hFound :
      ∀ {function : Function} {shown : Moment → String},
        clock = some function → Call.Shows function shown →
          found =
            (Value.text (shown now)).toDate.map fun date =>
              .ofNat (part date) := by
    intro function shown hInner hShows
    simp only [found]
    rw [sheet.outcome_withFormula row col body body hBegins,
      Inquiry.ofBody, hBody]
    simp only [Expr.value_part_of_clock hOuter hAsks hInner
      hShows]
    rfl
  refine ⟨fun hToday => ?_, fun hNow => ⟨?_, ?_⟩⟩
  · rw [hFound hToday .today,
      Value.toDate_toText hShown.date]
    rfl
  · intro hYear
    rw [hFound hNow .now,
      Value.toDate_toText_moment hShown hYear]
    rfl
  · intro hYear
    rw [hFound hNow .now,
      Value.toDate_toText_moment_of_short hYear]
    exact ⟨rfl, rfl⟩

/- An empty sheet with a clock that stands still. -/
def stopped
    (now : Moment) :
    Sheet where
  grid := []
  settings := ⟨5, 10, false, false, 1⟩
  surroundings :=
    { Surroundings.still with clock := fun _ => now }

/- A formula for the year that it is. -/
def yearOfToday : List Char :=
  "YEAR(TODAY())".toList

/- A formula for the day that it is now. -/
def dayOfNow : List Char :=
  "day( now() )".toList

/- The leap day of a year and its last second. -/
def leaping : Moment := ⟨⟨2024, 2, 29⟩, 23, 59, 59⟩

/- On a leap day both are those of the clock. -/
theorem parts_of_clock_leaping :
    (stopped leaping).Begins
        ⟨⟨(0 : Nat), (0 : Nat)⟩, .start⟩ ∧
      leaping.IsShown ∧
      Expr.ofBody yearOfToday =
        .ok (.call "YEAR" [.call "TODAY" []]) ∧
      Expr.ofBody dayOfNow =
        .ok (.call "day" [.call "now" []]) ∧
      ((((stopped leaping).withFormula 0 0
          yearOfToday).evaluateCell ⟨0, 0⟩).outcome
            .start).1 =
        .ok (.ofNat 2024) ∧
      ((((stopped leaping).withFormula 0 0
          dayOfNow).evaluateCell ⟨0, 0⟩).outcome
            .start).1 =
        .ok (.ofNat 29) := by
  have hBegins :
      (stopped leaping).Begins
        ⟨⟨(0 : Nat), (0 : Nat)⟩, .start⟩ :=
    ⟨opens_start _, by decide⟩
  have hShown : leaping.IsShown :=
    ⟨by decide, by decide, by decide, by decide⟩
  have hYear :
      Expr.ofBody yearOfToday =
        .ok (.call "YEAR" [.call "TODAY" []]) := by
    rfl
  have hDay :
      Expr.ofBody dayOfNow =
        .ok (.call "day" [.call "now" []]) := by
    rfl
  have hToday :=
    (parts_of_clock (stopped leaping) 0 0 hBegins hShown .year
      hYear rfl).1 rfl
  have hNow :=
    ((parts_of_clock (stopped leaping) 0 0 hBegins hShown .day
      hDay rfl).2 rfl).1 (by decide)
  exact ⟨hBegins, hShown, hYear, hDay, hToday, hNow⟩

/- A formula for the year of the moment that it is. -/
def yearOfNow : List Char :=
  "YEAR(NOW())".toList

/- A moment in the last year of three digits. -/
def early : Moment := ⟨⟨999, 1, 2⟩, 3, 4, 5⟩

/-
  In a year of three digits the day that it is has a year,
  but the moment that it is has none.
-/
theorem no_parts_of_early_moment :
    early.IsShown ∧
      Expr.ofBody yearOfToday =
        .ok (.call "YEAR" [.call "TODAY" []]) ∧
      Expr.ofBody yearOfNow =
        .ok (.call "YEAR" [.call "NOW" []]) ∧
      ((((stopped early).withFormula 0 0
          yearOfToday).evaluateCell ⟨0, 0⟩).outcome
            .start).1.mapError Failure.display =
        .ok (.ofNat early.date.year) ∧
      ((((stopped early).withFormula 0 0
          yearOfNow).evaluateCell ⟨0, 0⟩).outcome
            .start).1.mapError Failure.display =
        .error "#VALUE!" := by
  refine
    ⟨⟨by decide, by decide, by decide, by decide⟩, by rfl,
      by rfl, ?_, ?_⟩
  · decide +kernel
  · decide +kernel

end Sheet

end Spreadsheet
