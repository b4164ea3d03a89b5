import Spreadsheet.Proofs.Evaluation.Spelling
import Spreadsheet.Proofs.Sheet.Evaluation

/-
  Sheets and spelling.

  An evaluation sees of a grid what its cells inquire about
  only.  So a formula in a cell can be spelt in another way:
  it comes to the same value or fails in the same way.  What
  cannot be read as a formula cannot be read in any spelling,
  and shows the same code wherever reading stops.

  Key definitions include:
    * `Spreadsheet.Sheet.withFormula`

  Main results:
    * `Spreadsheet.Sheet.evaluateCell_congr`
    * `Spreadsheet.Sheet.evaluate_respelt`
-/

------------------------------------------------------------
-- Equal Inquiries
------------------------------------------------------------

namespace Spreadsheet

namespace Sheet

variable {sheet other : Sheet}

/-
  Sheets whose cells make the same inquiries in the same
  surroundings and settings are evaluated alike.
-/
theorem evaluateWithin_congr
    (hSettings : other.settings = sheet.settings)
    (hSurroundings :
      other.surroundings = sheet.surroundings)
    (hInquiry :
      ∀ cell, other.inquiry cell = sheet.inquiry cell)
    (room : Nat) :
    other.evaluateWithin room = sheet.evaluateWithin room := by
  induction room with
  | zero =>
      funext cell
      rw [evaluateWithin, evaluateWithin, hSettings]
  | succ room ih =>
      funext cell
      simp only [evaluateWithin, ih, hInquiry, hSurroundings,
        keep, hSettings]

/- So the values of their cells are found in the same way. -/
theorem evaluateCell_congr
    (hSettings : other.settings = sheet.settings)
    (hSurroundings :
      other.surroundings = sheet.surroundings)
    (hInquiry :
      ∀ cell, other.inquiry cell = sheet.inquiry cell) :
    other.evaluateCell = sheet.evaluateCell := by
  funext cell
  simp only [evaluateCell, hSettings,
    evaluateWithin_congr hSettings hSurroundings hInquiry]

end Sheet

end Spreadsheet

------------------------------------------------------------
-- Formulas In Cells
------------------------------------------------------------

namespace Spreadsheet

/- The inquiry of a text behind the mark of a formula. -/
def Inquiry.ofBody
    (body : List Char) :
    Inquiry Value :=
  match Expr.ofBody body with
  | .ok formula => formula.value
  | .error fault => settled (.error (.unreadable fault))

namespace Sheet

variable (sheet : Sheet)
variable (row col : Nat)
variable (body : List Char)

/- A sheet with a formula put into a cell. -/
def withFormula : Sheet :=
  {
    sheet with
    grid :=
      sheet.grid.write row col
        (some (String.ofList ('=' :: body)))
  }

/- The cell inquires about the formula. -/
theorem inquiry_withFormula_self :
    (sheet.withFormula row col body).inquiry ⟨row, col⟩ =
      .ofBody body := by
  rw [inquiry, withFormula, Grid.read_write_self,
    Inquiry.ofRaw, String.toList_ofList]
  rfl

/- All other cells inquire as they did. -/
theorem inquiry_withFormula_ne
    {cell : Cell}
    (hCell : cell ≠ ⟨row, col⟩) :
    (sheet.withFormula row col body).inquiry cell =
      sheet.inquiry cell := by
  rw [inquiry, withFormula, Grid.read_write_ne _ _ _ _ hCell]
  rfl

/- The sheet is evaluated by what the cell inquires about. -/
theorem evaluateCell_withFormula
    {body other : List Char}
    (hInquiry : Inquiry.ofBody other = Inquiry.ofBody body) :
    (sheet.withFormula row col other).evaluateCell =
      (sheet.withFormula row col body).evaluateCell := by
  have hSettings :
      (sheet.withFormula row col other).settings =
        (sheet.withFormula row col body).settings :=
    rfl
  apply evaluateCell_congr hSettings rfl
  intro cell
  by_cases hCell : cell = ⟨row, col⟩
  · rw [hCell, inquiry_withFormula_self,
      inquiry_withFormula_self, hInquiry]
  · rw [inquiry_withFormula_ne _ _ _ _ hCell,
      inquiry_withFormula_ne _ _ _ _ hCell]

/- A formula that cannot be read shows the generic code. -/
theorem display_of_unreadable
    {fault : ReadFault}
    (hFault : Expr.ofBody body = .error fault)
    {progress : Progress}
    (hOpens : progress.Opens ⟨row, col⟩)
    (hRoom :
      progress.path.length < sheet.settings.maxDepth) :
    (((sheet.withFormula row col body).evaluateCell
        ⟨row, col⟩).outcome progress).1.mapError
          Failure.display =
      .error Failure.genericCode := by
  have hInquiry :
      (sheet.withFormula row col body).inquiry ⟨row, col⟩ =
        .settled (.error (.unreadable fault)) := by
    rw [inquiry_withFormula_self, Inquiry.ofBody, hFault]
  rw [outcome_begun (sheet.withFormula row col body) hOpens
    hRoom, hInquiry]
  rfl

end Sheet

end Spreadsheet

------------------------------------------------------------
-- Spellings
------------------------------------------------------------

namespace Spreadsheet

/-
  In another spelling a text makes the same inquiry, unless it
  can be read in neither.
-/
theorem Inquiry.ofBody_respelt
    {body other : List Char}
    (hSpelling :
      List.Forall₂ Lexeme.Respells (Lexeme.scan body)
        (Lexeme.scan other)) :
    ofBody other = ofBody body ∨
      (∃ fault, Expr.ofBody body = .error fault) ∧
        ∃ fault, Expr.ofBody other = .error fault := by
  have hFormulas := Expr.ofBody_respelt hSpelling
  cases hBody : Expr.ofBody body with
  | ok formula =>
      cases hOther : Expr.ofBody other with
      | ok respelt =>
          rw [hBody, hOther] at hFormulas
          have hStandard :
              respelt.standard = formula.standard :=
            Option.some.inj hFormulas
          have hValue : respelt.value = formula.value := by
            rw [← respelt.value_standard, hStandard,
              formula.value_standard]
          left
          simp only [ofBody, hBody, hOther, hValue]
      | error fault =>
          rw [hBody, hOther] at hFormulas
          cases hFormulas
  | error fault =>
      cases hOther : Expr.ofBody other with
      | ok respelt =>
          rw [hBody, hOther] at hFormulas
          cases hFormulas
      | error more => exact .inr ⟨⟨fault, rfl⟩, more, rfl⟩

namespace Sheet

/-
  A formula in a cell comes to the same value in any spelling,
  or fails so that the same is shown.
-/
theorem evaluate_respelt
    (sheet : Sheet)
    (row col : Nat)
    (body other : List Char)
    (hSpelling :
      List.Forall₂ Lexeme.Respells (Lexeme.scan body)
        (Lexeme.scan other))
    (progress : Progress) :
    (((sheet.withFormula row col other).evaluateCell
        ⟨row, col⟩).outcome progress).1.mapError
          Failure.display =
      (((sheet.withFormula row col body).evaluateCell
        ⟨row, col⟩).outcome progress).1.mapError
          Failure.display := by
  rcases Inquiry.ofBody_respelt hSpelling with
    hInquiry | ⟨⟨fault, hBody⟩, otherFault, hOther⟩
  · rw [sheet.evaluateCell_withFormula row col hInquiry]
  · let first := sheet.withFormula row col body
    let second := sheet.withFormula row col other
    rcases progress.known_or_busy_or_opens ⟨row, col⟩ with
      ⟨value, hKnown⟩ | ⟨hKnown, hBusy⟩ | hOpens
    · rw [first.outcome_known hKnown,
        second.outcome_known hKnown]
    · rw [first.outcome_busy hKnown hBusy,
        second.outcome_busy hKnown hBusy]
    · rcases Nat.lt_or_ge progress.path.length
          sheet.settings.maxDepth with hRoom | hFull
      · rw [sheet.display_of_unreadable row col body hBody
            hOpens hRoom,
          sheet.display_of_unreadable row col other hOther
            hOpens hRoom]
      · rw [first.outcome_full hOpens hFull,
          second.outcome_full hOpens hFull]
        rfl

/- A sheet with a text in each of two cells. -/
def lettered : Sheet where
  grid := [[some "ab"], [some "c"]]
  settings := ⟨5, 10, false, false, 1⟩
  surroundings := .still

/- A formula in capitals with English names. -/
def inEnglish : List Char :=
  "IFERROR(UPPER(A1),FO(A2)) & CONCATENATE(A1:A2)".toList

/- The formula in small letters with French names. -/
def inFrench : List Char :=
  "iferror(majuscule(a1),fo(a2))&concatener(a1:a2)".toList

/- Both come to the same text. -/
theorem evaluate_respelt_in_french :
    List.Forall₂ Lexeme.Respells (Lexeme.scan inEnglish)
        (Lexeme.scan inFrench) ∧
      (((lettered.withFormula 0 1 inEnglish).evaluateCell
          ⟨0, 1⟩).outcome .start).1.mapError
            Failure.display = .ok (.text "ABabc") ∧
      (((lettered.withFormula 0 1 inFrench).evaluateCell
          ⟨0, 1⟩).outcome .start).1.mapError
            Failure.display = .ok (.text "ABabc") := by
  have hSpelling :
      List.Forall₂ Lexeme.Respells (Lexeme.scan inEnglish)
        (Lexeme.scan inFrench) := by
    decide +kernel
  have hCapitals :
      (((lettered.withFormula 0 1 inEnglish).evaluateCell
          ⟨0, 1⟩).outcome .start).1.mapError
            Failure.display = .ok (.text "ABabc") := by
    decide +kernel
  refine ⟨hSpelling, hCapitals, ?_⟩
  exact (evaluate_respelt lettered 0 1 inEnglish inFrench
    hSpelling .start).trans hCapitals

end Sheet

end Spreadsheet
