import Mathlib.Data.Nat.Init
import Spreadsheet.Proofs.Address.Label
import Spreadsheet.Proofs.Text.Digits
import Spreadsheet.Proofs.Text.Fold
import Spreadsheet.Proofs.Text.Visible

/-
  Labels of the cells of an area.

  A label that is read names a cell of the plane whose row is
  not too long to be written, and the label of such a cell is
  read as this cell.  All cells of an area lie between its
  corners, so each of them has a label that is read as it.

  Key definitions include:
    * `Spreadsheet.Cell.IsLabelled`

  Main results:
    * `Spreadsheet.Cell.ofLabel_label`
    * `Spreadsheet.Cell.isLabelled_of_ofLabel`
    * `Spreadsheet.Area.mem_cells_iff`
    * `Spreadsheet.Area.isLabelled_of_mem_cells`
-/

------------------------------------------------------------
-- Values Of Digits
------------------------------------------------------------

namespace Spreadsheet

namespace Text

/- The value of a digit of any script is less than ten. -/
theorem lt_ten_of_digit?
    {c : Char}
    {d : Nat}
    (hDigit : digit? c = some d) :
    d < 10 := by
  rcases List.exists_of_findSome?_eq_some hDigit with
    ⟨first, -, hFound⟩
  split at hFound
  · cases hFound
    omega
  · cases hFound

/- Digits denote less than the power of ten of their count. -/
theorem decimalValue_lt
    (digits : List Char) :
    decimalValue digits < 10 ^ digits.length := by
  induction digits using List.reverseRecOn with
  | nil => decide
  | append_singleton digits c ih =>
      rw [List.length_append, List.length_singleton,
        Nat.pow_succ]
      cases hDigit : digit? c with
      | none =>
          have hSame :
              decimalValue (digits ++ [c]) =
                decimalValue digits := by
            simp [decimalValue, hDigit]
          omega
      | some d =>
          have hLess := lt_ten_of_digit? hDigit
          have hMore :
              decimalValue (digits ++ [c]) =
                decimalValue digits * 10 + d := by
            simp [decimalValue, positional, hDigit]
          omega

end Text

end Spreadsheet

------------------------------------------------------------
-- Labels That Are Read
------------------------------------------------------------

namespace Spreadsheet

namespace Cell

/-
  A cell of the plane whose row number can be written; its
  label is read as the cell.
-/
structure IsLabelled
    (cell : Cell) : Prop where
  row_nonneg : 0 ≤ cell.row
  col_nonneg : 0 ≤ cell.col
  row_lt : cell.row + 1 < 10 ^ Text.longestNumeral

/- A label is written in capitals and digits of ASCII. -/
theorem mem_label
    {cell : Cell}
    (hRow : 0 ≤ cell.row)
    {c : Char}
    (hMember : c ∈ cell.label.toList) :
    isColumnLetter c = true ∨ c.isDigit = true := by
  rw [label, String.toList_ofList, List.mem_append] at hMember
  rcases hMember with hLetter | hDigit
  · exact .inl (isColumnLetter_of_mem_lettersFrom hLetter)
  · right
    obtain ⟨n, hNumber⟩ : ∃ n : Nat, cell.row + 1 = n :=
      ⟨(cell.row + 1).toNat, by omega⟩
    rw [hNumber] at hDigit
    exact Text.isDigit_of_mem_decimal hDigit

/- These characters show and are their own capitals. -/
theorem plain_of_label
    {c : Char}
    (hChar : isColumnLetter c = true ∨ c.isDigit = true) :
    c.toNat < 128 ∧ Text.isBlank c = false ∧
      c.toUpper = c := by
  have hAscii : c.toNat < 128 := by
    have hLast : 'Z'.toNat = 90 := rfl
    rcases hChar with hLetter | hDigit
    · simp only [isColumnLetter, Bool.and_eq_true,
        decide_eq_true_eq] at hLetter
      omega
    · rw [Char.isDigit_iff_toNat] at hDigit
      have hNine : '9'.toNat = 57 := rfl
      omega
  have hAll :=
    Text.forall_ascii
      (motive := fun c =>
        isColumnLetter c = true ∨ c.isDigit = true →
          Text.isBlank c = false ∧ c.toUpper = c)
      (by decide +kernel) hAscii
  exact ⟨hAscii, hAll hChar⟩

/- A label is its own upper case. -/
theorem upper_label
    {cell : Cell}
    (hRow : 0 ≤ cell.row) :
    Text.upper cell.label.toList = cell.label.toList := by
  have hPlain :=
    fun c (hMember : c ∈ cell.label.toList) =>
      plain_of_label (mem_label hRow hMember)
  rw [Text.upper_of_ascii fun c hMember =>
    (hPlain c hMember).1]
  exact List.map_congr_left (fun c hMember =>
    (hPlain c hMember).2.2) |>.trans (List.map_id _)

/- A column of the plane has letters. -/
theorem columnLetters_ne_nil
    {col : Int}
    (hCol : 0 ≤ col) :
    columnLetters col ≠ [] := by
  intro hNone
  have hIndex := columnIndex_columnLetters col
  rw [hNone] at hIndex
  have hEmpty : columnIndex [] = -1 := rfl
  omega

/- The label of a cell is read as the cell. -/
theorem ofLabel_label
    {cell : Cell}
    (hCell : cell.IsLabelled) :
    ofLabel cell.label = .ok cell := by
  obtain ⟨n, hNumber⟩ : ∃ n : Nat, cell.row + 1 = n :=
    ⟨(cell.row + 1).toNat, by have := hCell.row_nonneg; omega⟩
  have hPlain :=
    fun c (hMember : c ∈ cell.label.toList) =>
      (plain_of_label (mem_label hCell.row_nonneg hMember)).2.1
  have hText :
      Text.upper (Text.trim cell.label.toList) =
        cell.label.toList := by
    have hTrim :
        Text.trim ([] ++ (cell.label.toList ++ [])) =
          cell.label.toList :=
      Text.trim_between (by simp) hPlain (by simp)
    rw [List.nil_append, List.append_nil] at hTrim
    rw [hTrim, upper_label hCell.row_nonneg]
  have hLetters := takeWhile_label cell
  have hDigits :
      cell.label.toList.dropWhile isColumnLetter =
        Text.decimal n := by
    have hBoth :=
      List.takeWhile_append_dropWhile (p := isColumnLetter)
        (l := cell.label.toList)
    rw [hLetters] at hBoth
    nth_rewrite 2 [label] at hBoth
    rw [String.toList_ofList, hNumber] at hBoth
    exact List.append_cancel_left hBoth
  have hAll :
      (Text.decimal n).all Text.isDigit = true := by
    rw [List.all_eq_true]
    intro c hMember
    rw [Text.isDigit, Text.digit?_of_isDigit
      (Text.isDigit_of_mem_decimal hMember)]
    rfl
  have hShort :
      ¬ Text.longestNumeral < (Text.decimal n).length := by
    rw [Nat.not_lt, Text.decimal,
      Nat.length_toDigits_le_iff (by decide) (by decide)]
    have hLess := hCell.row_lt
    rw [hNumber] at hLess
    exact_mod_cast hLess
  have hSome : n ≠ 0 := by
    have := hCell.row_nonneg
    omega
  have hIndex := columnIndex_columnLetters cell.col
  have hCol := hCell.col_nonneg
  rw [ofLabel, hText]
  simp only [hLetters, hDigits, hAll, hShort,
    List.isEmpty_eq_false_iff.mpr (columnLetters_ne_nil hCol),
    List.isEmpty_eq_false_iff.mpr (Text.decimal_ne_nil n),
    Text.decimalValue_decimal, hSome, hIndex, Bool.or_self,
    Bool.not_true, if_false, Bool.false_eq_true]
  cases cell
  simp only [Except.ok.injEq, Cell.mk.injEq]
  simp only at hNumber hCol
  omega

/- Letters denote a column of the plane. -/
theorem columnIndex_nonneg
    {letters : List Char}
    (hLetters : ∀ c ∈ letters, isColumnLetter c = true)
    (hSome : letters ≠ []) :
    0 ≤ columnIndex letters := by
  have hStep :
      ∀ (letters : List Char) (n : Int),
        (∀ c ∈ letters, isColumnLetter c = true) → 0 ≤ n →
        n + letters.length ≤
          letters.foldl (fun n c =>
            n * 26 + ((c.toNat : Int) - 'A'.toNat + 1)) n := by
    intro letters
    induction letters with
    | nil => simp
    | cons c rest ih =>
        intro n hAll hNonneg
        rw [List.forall_mem_cons] at hAll
        have hFirst := hAll.1
        simp only [isColumnLetter, Bool.and_eq_true,
          decide_eq_true_eq] at hFirst
        have hRest :=
          ih (n * 26 + ((c.toNat : Int) - 'A'.toNat + 1)) hAll.2
            (by omega)
        rw [List.foldl_cons, List.length_cons, Nat.cast_succ]
        omega
  have hFold := hStep letters 0 hLetters (by decide)
  have hLength := List.length_pos_iff.mpr hSome
  unfold columnIndex
  omega

/- A label that is read names a cell that has a label. -/
theorem isLabelled_of_ofLabel
    {text : String}
    {cell : Cell}
    (hRead : ofLabel text = .ok cell) :
    cell.IsLabelled := by
  simp only [ofLabel] at hRead
  split at hRead
  · cases hRead
  · rename_i hForm
    split at hRead
    · cases hRead
    · rename_i hShort
      split at hRead
      · cases hRead
      · rename_i hNumber
        cases hRead
        have hLess := Text.decimalValue_lt
          ((Text.upper (Text.trim text.toList)).dropWhile
            isColumnLetter)
        have hPower :=
          Nat.pow_le_pow_right (n := 10) (by decide)
            (Nat.not_lt.mp hShort)
        simp only [Bool.or_eq_true, not_or,
          List.isEmpty_iff] at hForm
        refine ⟨?_, ?_, ?_⟩
        · simp only
          omega
        · exact columnIndex_nonneg
            (fun c => List.mem_takeWhile_imp) hForm.1.1
        · simp only [Int.sub_add_cancel]
          exact_mod_cast hLess.trans_le hPower

end Cell

end Spreadsheet

------------------------------------------------------------
-- Cells Of Areas
------------------------------------------------------------

namespace Spreadsheet

namespace Area

/- The integers of a span lie between its ends. -/
theorem mem_span_iff
    {first last n : Int} :
    n ∈ span first last ↔ first ≤ n ∧ n ≤ last := by
  rw [span, List.mem_map]
  constructor
  · rintro ⟨m, hMember, rfl⟩
    rw [List.mem_range] at hMember
    omega
  · rintro ⟨hFirst, hLast⟩
    refine ⟨(n - first).toNat, ?_, by omega⟩
    rw [List.mem_range]
    omega

/- The cells of an area lie between its corners. -/
theorem mem_cells_iff
    {area : Area}
    {cell : Cell} :
    cell ∈ area.cells ↔
      (area.first.row ≤ cell.row ∧
        cell.row ≤ area.last.row) ∧
      (area.first.col ≤ cell.col ∧
        cell.col ≤ area.last.col) := by
  simp only [cells, List.mem_flatMap, List.mem_map,
    mem_span_iff]
  constructor
  · rintro ⟨row, hRow, col, hCol, rfl⟩
    exact ⟨hRow, hCol⟩
  · rintro ⟨hRow, hCol⟩
    exact ⟨cell.row, hRow, cell.col, hCol, rfl⟩

/- An area that is read lies between two cells with labels. -/
theorem exists_between_of_ofText
    {text : String}
    {area : Area}
    (hRead : ofText text = .ok area) :
    ∃ a b : Cell,
      a.IsLabelled ∧ b.IsLabelled ∧ area = between a b := by
  simp only [ofText] at hRead
  split at hRead
  · cases hRead
  · rename_i stop _
    cases hStart :
        Cell.ofLabel (String.ofList
          (text.toList.takeWhile (· ≠ ':'))) with
    | error fault =>
        rw [hStart] at hRead
        cases hRead
    | ok a =>
        cases hStop : Cell.ofLabel (String.ofList stop) with
        | error fault =>
            rw [hStart, hStop] at hRead
            cases hRead
        | ok b =>
            rw [hStart, hStop] at hRead
            cases hRead
            exact ⟨a, b, Cell.isLabelled_of_ofLabel hStart,
              Cell.isLabelled_of_ofLabel hStop, rfl⟩

/- Each cell of an area has a label that is read as it. -/
theorem isLabelled_of_mem_cells
    {text : String}
    {area : Area}
    (hRead : ofText text = .ok area)
    {cell : Cell}
    (hMember : cell ∈ area.cells) :
    cell.IsLabelled := by
  rcases exists_between_of_ofText hRead with
    ⟨a, b, hA, hB, rfl⟩
  rw [mem_cells_iff] at hMember
  simp only [between] at hMember
  have hRowA := hA.row_nonneg
  have hRowB := hB.row_nonneg
  have hColA := hA.col_nonneg
  have hColB := hB.col_nonneg
  have hLessA := hA.row_lt
  have hLessB := hB.row_lt
  refine ⟨by omega, by omega, ?_⟩
  generalize (10 : Int) ^ Text.longestNumeral = bound at *
  omega

end Area

end Spreadsheet
