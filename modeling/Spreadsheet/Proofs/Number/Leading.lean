import Spreadsheet.Number.Numeral
import Spreadsheet.Proofs.Text.Digits
import Spreadsheet.Proofs.Text.Stretch

/-
  Decimals at the front of a text.

  In a run of digits and points a decimal ends before the
  second point.  It is the longest beginning of the run that
  is a decimal by itself; a run without a digit before its
  second point begins with none.

  Key definitions include:
    * `Spreadsheet.Number.IsRun`
    * `Spreadsheet.Number.longestDecimal?`

  Main results:
    * `Spreadsheet.Number.leadingDecimal?_eq_longest`
-/

------------------------------------------------------------
-- Runs Of Digits And Points
------------------------------------------------------------

namespace Spreadsheet

namespace Number

/- A text of digits of ASCII and points. -/
def IsRun
    (text : List Char) : Prop :=
  ∀ c ∈ text, c.isDigit = true ∨ c = '.'

/- A digit of ASCII is a digit. -/
theorem isDigit_of_ascii
    {c : Char}
    (hDigit : c.isDigit = true) :
    Text.isDigit c = true := by
  rw [Text.isDigit, Text.digit?_of_isDigit hDigit]
  rfl

/- A part of a run is a run. -/
theorem IsRun.mono
    {part text : List Char}
    (hRun : IsRun text)
    (hPart : ∀ c ∈ part, c ∈ text) :
    IsRun part :=
  fun c hMem => hRun c (hPart c hMem)

/- The first digits of a run end before a point. -/
theorem IsRun.point_of_head_dropWhile
    {text : List Char}
    (hRun : IsRun text) :
    ∀ c ∈ (text.dropWhile Text.isDigit).head?, c = '.' := by
  intro c hHead
  have hMem : c ∈ text :=
    (List.dropWhile_sublist _).mem (List.mem_of_head? hHead)
  have hNot : Text.isDigit c = false :=
    Text.stop_of_head_dropWhile Text.isDigit text c hHead
  rcases hRun c hMem with hDigit | hPoint
  · rw [isDigit_of_ascii hDigit] at hNot
    cases hNot
  · exact hPoint

/-
  A run is made of digits only, or it has a first point with
  digits before and behind it, and no digit follows these.
-/
theorem IsRun.cases
    {text : List Char}
    (hRun : IsRun text) :
    (∀ c ∈ text, Text.isDigit c = true) ∨
    ∃ whole fraction beyond,
      text = (whole ++ '.' :: fraction) ++ beyond ∧
      (∀ c ∈ whole, Text.isDigit c = true) ∧
      (∀ c ∈ fraction, Text.isDigit c = true) ∧
      ∀ c ∈ beyond.head?, c = '.' := by
  have hParts :
      text.takeWhile Text.isDigit ++
        text.dropWhile Text.isDigit = text :=
    List.takeWhile_append_dropWhile
  have hHead := hRun.point_of_head_dropWhile
  cases hRest : text.dropWhile Text.isDigit with
  | nil =>
      rw [hRest, List.append_nil] at hParts
      left
      rw [← hParts]
      exact fun c hMem => List.mem_takeWhile_imp hMem
  | cons point rest =>
      rw [hRest] at hParts hHead
      cases hHead point rfl
      have hBehind : IsRun rest := by
        refine hRun.mono fun c hMem => ?_
        rw [← hParts]
        exact List.mem_append_right _
          (List.mem_cons_of_mem _ hMem)
      refine Or.inr ⟨text.takeWhile Text.isDigit,
        rest.takeWhile Text.isDigit,
        rest.dropWhile Text.isDigit, ?_, ?_, ?_,
        hBehind.point_of_head_dropWhile⟩
      · rw [List.append_assoc, List.cons_append,
          List.takeWhile_append_dropWhile, hParts]
      · exact fun c hMem => List.mem_takeWhile_imp hMem
      · exact fun c hMem => List.mem_takeWhile_imp hMem

end Number

end Spreadsheet

------------------------------------------------------------
-- The Longest Decimal
------------------------------------------------------------

namespace Spreadsheet

namespace Number

/-
  The value of the longest decimal that a text begins with,
  among the beginnings of at most so many characters.
-/
def longestDecimal?
    (text : List Char) :
    (length : Nat) → Option Float
  | 0 => none
  | length + 1 =>
      match decimal? (text.take (length + 1)) with
      | some value => some value
      | none => longestDecimal? text length

/- Beginnings that are no decimals do not count. -/
theorem longestDecimal?_skip
    {text : List Char}
    {short long : Nat}
    (hShort : short ≤ long)
    (hNone : ∀ length, short < length → length ≤ long →
      decimal? (text.take length) = none) :
    longestDecimal? text long =
      longestDecimal? text short := by
  induction long with
  | zero => rw [Nat.le_zero.mp hShort]
  | succ long ih =>
      rcases Nat.eq_or_lt_of_le hShort with rfl | hLess
      · rfl
      · rw [longestDecimal?, hNone _ hLess (Nat.le_refl _)]
        exact ih (Nat.le_of_lt_succ hLess)
          fun length hLong hBound =>
            hNone length hLong (Nat.le_succ_of_le hBound)

/- A run has no sign. -/
theorem IsRun.splitSign
    {text : List Char}
    (hRun : IsRun text) :
    Number.splitSign text = (false, text) := by
  unfold Number.splitSign
  split
  · rcases hRun '+' List.mem_cons_self with hDigit | hPoint
    · cases hDigit
    · cases hPoint
  · rcases hRun '-' List.mem_cons_self with hDigit | hPoint
    · cases hDigit
    · cases hPoint
  · rfl

theorem splitDecimal_digits
    {whole : List Char}
    (hWhole : ∀ c ∈ whole, Text.isDigit c = true) :
    splitDecimal whole = (whole, [], []) := by
  have hTake := List.takeWhile_eq_self_iff.mpr hWhole
  have hDrop := List.dropWhile_eq_nil_iff.mpr hWhole
  simp only [splitDecimal, hTake, hDrop]

theorem splitDecimal_point
    {whole fraction beyond : List Char}
    (hWhole : ∀ c ∈ whole, Text.isDigit c = true)
    (hFraction : ∀ c ∈ fraction, Text.isDigit c = true)
    (hBeyond : ∀ c ∈ beyond.head?, c = '.') :
    splitDecimal ((whole ++ '.' :: fraction) ++ beyond) =
      (whole, fraction, beyond) := by
  have hPoint : Text.isDigit '.' = false := by decide
  have hStop :
      ∀ c ∈ ('.' :: (fraction ++ beyond)).head?,
        Text.isDigit c = false := by
    rintro _ ⟨⟩
    exact hPoint
  have hEnd :
      ∀ c ∈ beyond.head?, Text.isDigit c = false := by
    intro c hHead
    rw [hBeyond c hHead]
    exact hPoint
  rw [List.append_assoc, List.cons_append]
  simp only [splitDecimal,
    Text.takeWhile_append_stop hWhole hStop,
    Text.dropWhile_append_stop hWhole hStop,
    Text.takeWhile_append_stop hFraction hEnd,
    Text.dropWhile_append_stop hFraction hEnd]

/- What begins with a second point is no exponent. -/
theorem exponent?_of_point
    {beyond : List Char}
    (hBeyond : ∀ c ∈ beyond.head?, c = '.')
    (hMore : beyond ≠ []) :
    exponent? beyond = none := by
  rcases List.exists_cons_of_ne_nil hMore with
    ⟨c, rest, rfl⟩
  cases hBeyond c rfl
  rfl

/- A decimal in a run has no exponent behind it. -/
theorem decimal?_of_split
    {text whole fraction beyond : List Char}
    (hRun : IsRun text)
    (hSplit :
      splitDecimal text = (whole, fraction, beyond))
    (hBeyond : ∀ c ∈ beyond.head?, c = '.') :
    decimal? text =
      if beyond = [] then leadingDecimal? text else none := by
  unfold decimal? leadingDecimal?
  simp only [hRun.splitSign, hSplit]
  by_cases hEnds : beyond = []
  · rw [if_pos hEnds, hEnds]
    rfl
  · rw [if_neg hEnds, exponent?_of_point hBeyond hEnds]
    split <;> rfl

section Point

variable {whole fraction beyond : List Char}
variable (hWhole : ∀ c ∈ whole, Text.isDigit c = true)
variable (hFraction : ∀ c ∈ fraction, Text.isDigit c = true)

include hWhole hFraction

/- What is behind a second point does not count. -/
theorem leadingDecimal?_point
    (hBeyond : ∀ c ∈ beyond.head?, c = '.') :
    leadingDecimal? ((whole ++ '.' :: fraction) ++ beyond) =
      if whole.isEmpty && fraction.isEmpty then
        none
      else
        some (decimalOf false whole fraction 0) := by
  simp only [leadingDecimal?,
    splitDecimal_point hWhole hFraction hBeyond]

/- No beginning that goes beyond a second point counts. -/
theorem longestDecimal?_point
    (hRun : IsRun ((whole ++ '.' :: fraction) ++ beyond))
    (hBeyond : ∀ c ∈ beyond.head?, c = '.') :
    longestDecimal? ((whole ++ '.' :: fraction) ++ beyond)
        ((whole ++ '.' :: fraction) ++ beyond).length =
      longestDecimal? ((whole ++ '.' :: fraction) ++ beyond)
        (whole ++ '.' :: fraction).length := by
  have hLength :
      ((whole ++ '.' :: fraction) ++ beyond).length =
        (whole ++ '.' :: fraction).length + beyond.length :=
    List.length_append
  rw [hLength]
  refine longestDecimal?_skip (Nat.le_add_right _ _) ?_
  intro length hLong hBound
  have hHead :
      ∀ c ∈ (beyond.take (length -
        (whole ++ '.' :: fraction).length)).head?,
        c = '.' := by
    intro c hHead
    rw [List.head?_take] at hHead
    split at hHead
    · cases hHead
    · exact hBeyond c hHead
  have hMore :
      beyond.take (length -
        (whole ++ '.' :: fraction).length) ≠ [] := by
    rw [← List.length_pos_iff, List.length_take]
    omega
  have hTake :
      ((whole ++ '.' :: fraction) ++ beyond).take length =
        (whole ++ '.' :: fraction) ++ beyond.take (length -
          (whole ++ '.' :: fraction).length) := by
    rw [List.take_append,
      List.take_of_length_le (Nat.le_of_lt hLong)]
  have hPrefix :
      IsRun (((whole ++ '.' :: fraction) ++ beyond).take
        length) :=
    hRun.mono fun _ hMem => List.mem_of_mem_take hMem
  have hSplit := splitDecimal_point hWhole hFraction hHead
  rw [← hTake] at hSplit
  rw [decimal?_of_split hPrefix hSplit hHead, if_neg hMore]

end Point

/-
  The decimal at the front of a run is the longest beginning
  of the run that is a decimal by itself.
-/
theorem leadingDecimal?_eq_longest
    {text : List Char}
    (hRun : IsRun text) :
    leadingDecimal? text =
      longestDecimal? text text.length := by
  rcases hRun.cases with
    hDigits | ⟨whole, fraction, beyond, rfl, hWhole,
      hFraction, hBeyond⟩
  · have hSplit := splitDecimal_digits hDigits
    cases text with
    | nil => rfl
    | cons c rest =>
        have hValue :=
          decimal?_of_split hRun hSplit (by simp)
        rw [if_pos rfl] at hValue
        rw [List.length_cons, longestDecimal?,
          ← List.length_cons, List.take_length, hValue]
        simp [leadingDecimal?, hSplit]
  · have hFront : IsRun ((whole ++ '.' :: fraction) ++ []) := by
      rw [List.append_nil]
      exact hRun.mono fun _ hMem =>
        List.mem_append_left _ hMem
    have hValue :=
      decimal?_of_split hFront
        (splitDecimal_point hWhole hFraction (by simp))
        (by simp)
    rw [if_pos rfl, leadingDecimal?_point hWhole hFraction
      (by simp), List.append_nil] at hValue
    have hLength :
        (whole ++ '.' :: fraction).length =
          whole.length + fraction.length + 1 := by
      rw [List.length_append, List.length_cons]
      rfl
    rw [longestDecimal?_point hWhole hFraction hRun hBeyond,
      leadingDecimal?_point hWhole hFraction hBeyond,
      hLength, longestDecimal?, ← hLength, List.take_left,
      hValue]
    split
    · rename_i hNone
      simp only [Bool.and_eq_true, List.isEmpty_iff] at hNone
      rw [hNone.1, hNone.2]
      rfl
    · rfl

end Number

end Spreadsheet
