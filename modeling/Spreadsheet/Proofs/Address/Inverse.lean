import Spreadsheet.Proofs.Address.Area

/-
  Labels and cells are inverse to each other.

  The letters of columns have no zero: each letter counts from
  one to twenty-six.  So every text of letters is the letters
  of one column only, and a label that is read differs from
  the label of its cell in its white space, its case and the
  way its row number is written.

  Main results:
    * `Spreadsheet.columnLetters_columnIndex`
    * `Spreadsheet.Cell.label_of_ofLabel`
    * `Spreadsheet.Cell.labels_correspond`
-/

------------------------------------------------------------
-- Letters Of Columns
------------------------------------------------------------

namespace Spreadsheet

/- A letter is found by its place among the letters. -/
theorem ofNat_columnLetter
    {c : Char}
    (hLetter : isColumnLetter c = true) :
    'A'.toNat ≤ c.toNat ∧ c.toNat - 'A'.toNat < 26 ∧
      Char.ofNat ('A'.toNat + (c.toNat - 'A'.toNat)) = c := by
  simp only [isColumnLetter, Bool.and_eq_true,
    decide_eq_true_eq] at hLetter
  have hLast : 'Z'.toNat = 'A'.toNat + 25 := by decide
  refine ⟨hLetter.1, by omega, ?_⟩
  rw [Nat.add_sub_cancel' hLetter.1]
  exact Char.ofNat_toNat c

/- Letters are made from the number that they denote. -/
theorem lettersFrom_of_value
    {letters : List Char}
    (hLetters : ∀ c ∈ letters, isColumnLetter c = true)
    {fuel n : Nat}
    (hValue : (n : Int) = columnIndex letters + 1)
    (hFuel : n ≤ fuel) :
    lettersFrom fuel n = letters := by
  -- The last letter is the last place, as the letters are made.
  induction letters using List.reverseRecOn
    generalizing fuel n with
  | nil =>
      have hZero : n = 0 := by
        have hEmpty : columnIndex [] = -1 := rfl
        omega
      cases fuel with
      | zero => rfl
      | succ fuel => rw [lettersFrom, if_pos hZero]
  | append_singleton letters c ih =>
      rw [List.forall_mem_append, List.forall_mem_singleton]
        at hLetters
      rcases ofNat_columnLetter hLetters.2 with
        ⟨hFirst, hPlace, hChar⟩
      have hRest : -1 ≤ columnIndex letters := by
        by_cases hNone : letters = []
        · rw [hNone]
          rfl
        · have hNonneg :=
            Cell.columnIndex_nonneg hLetters.1 hNone
          omega
      obtain ⟨m, hM⟩ :
          ∃ m : Nat, (m : Int) = columnIndex letters + 1 :=
        ⟨(columnIndex letters + 1).toNat, by omega⟩
      have hStep :
          n = m * 26 + (c.toNat - 'A'.toNat) + 1 := by
        have hBoth :
            columnIndex (letters ++ [c]) + 1 =
              (columnIndex letters + 1) * 26 +
                ((c.toNat : Int) - 'A'.toNat + 1) := by
          simp [columnIndex]
        omega
      have hDiv : (n - 1) / 26 = m := by omega
      have hMod : (n - 1) % 26 = c.toNat - 'A'.toNat := by
        omega
      cases fuel with
      | zero => omega
      | succ fuel =>
          rw [lettersFrom, if_neg (by omega), hDiv, hMod,
            hChar, ih hLetters.1 hM (by omega)]

/- Letters are those of the column that they denote. -/
theorem columnLetters_columnIndex
    {letters : List Char}
    (hLetters : ∀ c ∈ letters, isColumnLetter c = true)
    (hSome : letters ≠ []) :
    columnLetters (columnIndex letters) = letters := by
  have hNonneg := Cell.columnIndex_nonneg hLetters hSome
  exact lettersFrom_of_value hLetters (by omega) le_rfl

end Spreadsheet

------------------------------------------------------------
-- Labels That Are Read
------------------------------------------------------------

namespace Spreadsheet

namespace Cell

/-
  A label that is read falls apart, trimmed and in capitals,
  into the letters of the column of its cell and the digits of
  its row number.
-/
theorem parts_of_ofLabel
    {text : String}
    {cell : Cell}
    (hRead : ofLabel text = .ok cell) :
    ∃ letters digits,
      Text.upper (Text.trim text.toList) =
        letters ++ digits ∧
      letters ≠ [] ∧
      (∀ c ∈ letters, isColumnLetter c = true) ∧
      (∀ c ∈ digits, Text.isDigit c = true) ∧
      cell.col = columnIndex letters ∧
      cell.row + 1 = Text.decimalValue digits := by
  simp only [ofLabel] at hRead
  split at hRead
  · cases hRead
  · rename_i hForm
    split at hRead
    · cases hRead
    · split at hRead
      · cases hRead
      · cases hRead
        simp only [Bool.or_eq_true, not_or, List.isEmpty_iff,
          Bool.not_eq_true', Bool.not_eq_false,
          List.all_eq_true] at hForm
        exact ⟨_, _, List.takeWhile_append_dropWhile.symm,
          hForm.1.1, fun c => List.mem_takeWhile_imp,
          hForm.2, rfl, Int.sub_add_cancel _ _⟩

/-
  The label of the cell that a label is read as has the same
  letters, in capitals, and the same row number, in plain
  notation.
-/
theorem label_of_ofLabel
    {text : String}
    {cell : Cell}
    (hRead : ofLabel text = .ok cell) :
    ∃ letters digits number,
      Text.upper (Text.trim text.toList) =
        letters ++ digits ∧
      (∀ c ∈ letters, isColumnLetter c = true) ∧
      (∀ c ∈ digits, Text.isDigit c = true) ∧
      cell.label.toList = letters ++ number ∧
      Text.IsWhole number ∧
      Text.decimalValue number = Text.decimalValue digits := by
  rcases parts_of_ofLabel hRead with
    ⟨letters, digits, hText, hSome, hLetters, hDigits, hCol,
      hRow⟩
  refine ⟨letters, digits,
    Text.decimal (Text.decimalValue digits), hText, hLetters,
    hDigits, ?_, .decimal _, Text.decimalValue_decimal _⟩
  rw [label, String.toList_ofList, hCol, hRow,
    columnLetters_columnIndex hLetters hSome]
  rfl

/-
  Labels and cells correspond to each other.  Columns from
  zero on correspond to texts of letters; a cell whose row
  number can be written is what its label is read as, and has
  the label to itself; and a label that is read is the label
  of its cell, trimmed, in capitals and with its row number in
  plain notation.
-/
theorem labels_correspond :
    (∀ col : Int, 0 ≤ col →
      columnIndex (columnLetters col) = col) ∧
    (∀ letters : List Char,
      letters ≠ [] →
      (∀ c ∈ letters, isColumnLetter c = true) →
      columnLetters (columnIndex letters) = letters) ∧
    (∀ cell : Cell, cell.IsLabelled →
      ofLabel cell.label = .ok cell) ∧
    (∀ cell other : Cell, 0 ≤ cell.col →
      other.label = cell.label → other = cell) ∧
    (∀ (text : String) (cell : Cell),
      ofLabel text = .ok cell →
      ∃ letters digits number,
        Text.upper (Text.trim text.toList) =
          letters ++ digits ∧
        (∀ c ∈ letters, isColumnLetter c = true) ∧
        (∀ c ∈ digits, Text.isDigit c = true) ∧
        cell.label.toList = letters ++ number ∧
        Text.IsWhole number ∧
        Text.decimalValue number =
          Text.decimalValue digits) := by
  refine ⟨fun col hCol => ?_, fun letters hSome hLetters => ?_,
    fun cell hCell => ofLabel_label hCell,
    fun cell other hCol hLabel => eq_of_label_eq hCol hLabel,
    fun text cell hRead => label_of_ofLabel hRead⟩
  · have hIndex := columnIndex_columnLetters col
    omega
  · exact columnLetters_columnIndex hLetters hSome

/-
  The columns around the first one of three letters, and a
  label in small letters with a row number in another script.
-/
theorem labels_correspond_three_letters :
    columnIndex (columnLetters 702) = 702 ∧
    columnLetters (columnIndex ['Z', 'Z']) = ['Z', 'Z'] ∧
    ofLabel (label ⟨11, 702⟩) = .ok ⟨11, 702⟩ ∧
    label ⟨0, 702⟩ ≠ label ⟨0, 701⟩ ∧
    ofLabel "\taaa٠٧ " = .ok ⟨6, 702⟩ ∧
    ∃ letters digits number,
      Text.upper (Text.trim "\taaa٠٧ ".toList) =
        letters ++ digits ∧
      (∀ c ∈ letters, isColumnLetter c = true) ∧
      (∀ c ∈ digits, Text.isDigit c = true) ∧
      (label ⟨6, 702⟩).toList = letters ++ number ∧
      Text.IsWhole number ∧
      Text.decimalValue number =
        Text.decimalValue digits := by
  rcases labels_correspond with
    ⟨hIndex, hLetters, hLabel, hUnique, hRead⟩
  have hCell : IsLabelled ⟨11, 702⟩ := by
    refine ⟨by decide, by decide, ?_⟩
    have hDigits : 2 ≤ Text.longestNumeral := by
      unfold Text.longestNumeral
      omega
    have hPower :
        (10 : Int) ^ 2 ≤ 10 ^ Text.longestNumeral :=
      pow_le_pow_right₀ (by decide) hDigits
    have hRow : (11 : Int) + 1 < 10 ^ 2 := by decide
    exact hRow.trans_le hPower
  have hText : ofLabel "\taaa٠٧ " = .ok ⟨6, 702⟩ := by
    decide +kernel
  refine ⟨hIndex 702 (by decide),
    hLetters ['Z', 'Z'] (by decide) (by simp [isColumnLetter]),
    hLabel _ hCell, fun hSame => ?_, hText, hRead _ _ hText⟩
  exact absurd (hUnique ⟨0, 701⟩ ⟨0, 702⟩ (by decide) hSame)
    (by decide)

end Cell

end Spreadsheet
