import Spreadsheet.Address

/-
  Labels identify cells.

  The letters of a label denote the column that they were made
  from.  None of the characters behind them is a letter, so
  that a label falls apart in one way only, into a column and
  a row.

  Main results:
    * `Spreadsheet.columnIndex_columnLetters`
    * `Spreadsheet.Cell.eq_of_label_eq`
-/

------------------------------------------------------------
-- Columns
------------------------------------------------------------

namespace Spreadsheet

/- One of the twenty-six letters has its place among them. -/
theorem toNat_columnLetter :
    ∀ place < 26,
      (Char.ofNat ('A'.toNat + place)).toNat =
        'A'.toNat + place := by
  decide

/- Letters with enough fuel denote the number. -/
theorem foldl_lettersFrom
    {fuel n : Nat}
    (hFuel : n ≤ fuel) :
    (lettersFrom fuel n).foldl
        (fun (m : Int) c =>
          m * 26 + ((c.toNat : Int) - 'A'.toNat + 1)) 0 =
      n := by
  induction fuel generalizing n with
  | zero =>
      rw [Nat.le_zero.mp hFuel]
      rfl
  | succ fuel ih =>
      rw [lettersFrom]
      split
      · rename_i hZero
        rw [hZero]
        rfl
      · rename_i hPositive
        have hPlace : (n - 1) % 26 < 26 :=
          Nat.mod_lt _ (by decide)
        rw [List.foldl_append, ih (by omega),
          List.foldl_cons, List.foldl_nil,
          toNat_columnLetter _ hPlace]
        omega

/- Letters denote their column; no letters denote none. -/
theorem columnIndex_columnLetters
    (col : Int) :
    columnIndex (columnLetters col) = max col (-1) := by
  unfold columnIndex columnLetters
  rw [foldl_lettersFrom (Nat.le_refl _)]
  omega

theorem isColumnLetter_of_mem_lettersFrom
    {fuel n : Nat}
    {c : Char}
    (hLetter : c ∈ lettersFrom fuel n) :
    isColumnLetter c = true := by
  induction fuel generalizing n with
  | zero => simp [lettersFrom] at hLetter
  | succ fuel ih =>
      rw [lettersFrom] at hLetter
      split at hLetter
      · simp at hLetter
      · rw [List.mem_append, List.mem_singleton] at hLetter
        rcases hLetter with hLetter | rfl
        · exact ih hLetter
        · have hPlace : (n - 1) % 26 < 26 :=
            Nat.mod_lt _ (by decide)
          have hLast : 'Z'.toNat = 'A'.toNat + 25 := by
            decide
          rw [isColumnLetter, toNat_columnLetter _ hPlace,
            hLast]
          simp only [Bool.and_eq_true, decide_eq_true_eq]
          omega

end Spreadsheet

------------------------------------------------------------
-- Rows
------------------------------------------------------------

namespace Spreadsheet

namespace Text

/- No character of an integer is a letter. -/
theorem isColumnLetter_of_mem_integer
    {n : Int}
    {c : Char}
    (hMember : c ∈ integer n) :
    isColumnLetter c = false := by
  have hDecimal :
      ∀ (m : Nat) (c : Char), c ∈ decimal m →
        isColumnLetter c = false := by
    intro m c hDigit
    have hAscii : c.isDigit = true :=
      Nat.isDigit_of_mem_toDigits (by decide) (by decide)
        hDigit
    rw [Char.isDigit_iff_toNat] at hAscii
    have hBefore : '9'.toNat < 'A'.toNat := by decide
    simp only [isColumnLetter, Bool.and_eq_false_iff,
      decide_eq_false_iff_not]
    omega
  cases n with
  | ofNat m => exact hDecimal m c hMember
  | negSucc m =>
      rcases List.mem_cons.mp hMember with rfl | hMember
      · decide
      · exact hDecimal (m + 1) c hMember

/- Different numbers are written differently. -/
theorem eq_of_decimal_eq
    {m n : Nat}
    (hSame : decimal m = decimal n) :
    m = n := by
  have hValues :=
    congrArg (fun digits => Nat.ofDigitChars 10 digits 0) hSame
  simpa only [decimal, Nat.ofDigitChars_ten_toDigits]
    using hValues

/- A number in plain notation has no sign. -/
theorem decimal_ne_signed
    (n : Nat)
    (rest : List Char) :
    decimal n ≠ '-' :: rest := by
  intro hSame
  have hSign : '-' ∈ decimal n := by
    rw [hSame]
    exact List.mem_cons_self
  have hDigit : '-'.isDigit = true :=
    Nat.isDigit_of_mem_toDigits (by decide) (by decide) hSign
  exact absurd hDigit (by decide)

/- Different integers are written differently. -/
theorem eq_of_integer_eq
    {m n : Int}
    (hSame : integer m = integer n) :
    m = n := by
  cases m with
  | ofNat m =>
      cases n with
      | ofNat n => rw [eq_of_decimal_eq hSame]
      | negSucc n => exact absurd hSame (decimal_ne_signed _ _)
  | negSucc m =>
      cases n with
      | ofNat n =>
          exact absurd hSame.symm (decimal_ne_signed _ _)
      | negSucc n =>
          have hDigits : decimal (m + 1) = decimal (n + 1) :=
            (List.cons.inj hSame).2
          rw [Nat.succ.inj (eq_of_decimal_eq hDigits)]

end Text

end Spreadsheet

------------------------------------------------------------
-- Labels
------------------------------------------------------------

namespace Spreadsheet

namespace Cell

/- The column comes first in a label. -/
theorem takeWhile_label
    (cell : Cell) :
    cell.label.toList.takeWhile isColumnLetter =
      columnLetters cell.col := by
  have hRow :
      (Text.integer (cell.row + 1)).takeWhile
        isColumnLetter = [] := by
    cases hChars : Text.integer (cell.row + 1) with
    | nil => rfl
    | cons c rest =>
        have hFirst : isColumnLetter c = false := by
          apply Text.isColumnLetter_of_mem_integer
          rw [hChars]
          exact List.mem_cons_self
        simp [hFirst]
  have hColumn :
      ∀ c ∈ columnLetters cell.col,
        isColumnLetter c = true :=
    fun c hLetter => isColumnLetter_of_mem_lettersFrom hLetter
  rw [label, String.toList_ofList,
    List.takeWhile_append_of_pos hColumn, hRow,
    List.append_nil]

/- A cell in a column is the only one with its label. -/
theorem eq_of_label_eq
    {cell other : Cell}
    (hCol : 0 ≤ cell.col)
    (hLabel : other.label = cell.label) :
    other = cell := by
  have hLetters :
      columnLetters other.col = columnLetters cell.col := by
    rw [← takeWhile_label, hLabel, takeWhile_label]
  have hRows :
      Text.integer (other.row + 1) =
        Text.integer (cell.row + 1) := by
    have hTexts := congrArg String.toList hLabel
    rw [label, label, String.toList_ofList,
      String.toList_ofList, hLetters] at hTexts
    exact List.append_cancel_left hTexts
  have hCols :
      max other.col (-1) = max cell.col (-1) := by
    rw [← columnIndex_columnLetters, hLetters,
      columnIndex_columnLetters]
  have hRow := Text.eq_of_integer_eq hRows
  cases cell
  cases other
  simp only [Cell.mk.injEq]
  simp only at hCol hCols hRow
  omega

end Cell

end Spreadsheet
