import Mathlib.Algebra.Order.BigOperators.Group.List
import Mathlib.Data.List.GetD
import Mathlib.Tactic.IntervalCases
import Spreadsheet.Calendar.Date

/-
  Days that follow each other.

  Numbered days are the days of the calendar in their order:
  the day after a day has the next number, and the day with
  the number of a day is this day.  So the day of a number is
  reached from any earlier day by going on day by day.

  Key definitions include:
    * `Spreadsheet.Date.yearLength`
    * `Spreadsheet.Date.lastDay`

  Main results:
    * `Spreadsheet.Date.ofOrdinal_ordinal`
    * `Spreadsheet.Date.ordinal_next`
    * `Spreadsheet.Date.isValid_next`
    * `Spreadsheet.Date.ofOrdinal_add`
-/

------------------------------------------------------------
-- Months Of A Year
------------------------------------------------------------

namespace Spreadsheet

namespace Date

/- The number of days of a year. -/
def yearLength
    (year : Nat) :
    Nat :=
  if isLeap year then 366 else 365

variable {year month day : Nat}
variable {lengths : List Nat}

theorem sum_monthLengths
    (year : Nat) :
    (monthLengths (isLeap year)).sum = yearLength year := by
  rw [yearLength]
  cases isLeap year with
  | false => rfl
  | true => rfl

theorem length_monthLengths
    (leap : Bool) :
    (monthLengths leap).length = 12 :=
  rfl

/- The days before a month are those of the months before. -/
theorem daysBeforeMonth_eq
    (year month : Nat) :
    daysBeforeMonth year month =
      ((monthLengths (isLeap year)).take (month - 1)).sum := by
  rw [daysBeforeMonth, List.sum_eq_foldl_nat]

/- Before the next month there are the days of a month more. -/
theorem daysBeforeMonth_succ
    (hFirst : 1 ≤ month)
    (hLast : month ≤ 12) :
    daysBeforeMonth year (month + 1) =
      daysBeforeMonth year month + monthLength year month := by
  have hInside :
      month - 1 < (monthLengths (isLeap year)).length := by
    rw [length_monthLengths]
    omega
  have hMonth : month + 1 - 1 = month - 1 + 1 := by omega
  rw [daysBeforeMonth_eq, daysBeforeMonth_eq, hMonth,
    List.sum_take_succ _ _ hInside, monthLength,
    List.getD_eq_getElem _ _ hInside]

/- No month goes beyond the end of its year. -/
theorem daysBeforeMonth_add_le
    (hFirst : 1 ≤ month)
    (hLast : month ≤ 12) :
    daysBeforeMonth year month + monthLength year month ≤
      yearLength year := by
  rw [← daysBeforeMonth_succ hFirst hLast, daysBeforeMonth_eq,
    ← sum_monthLengths]
  exact (List.take_sublist _ _).sum_le_sum fun _ _ =>
    Nat.zero_le _

/- The last month ends with its year. -/
theorem daysBeforeMonth_thirteen
    (year : Nat) :
    daysBeforeMonth year 12 + monthLength year 12 =
      yearLength year := by
  rw [← daysBeforeMonth_succ (by decide) (by decide),
    daysBeforeMonth_eq, ← sum_monthLengths]
  exact congrArg List.sum
    (List.take_of_length_le (length_monthLengths _).le)

/- An offset behind whole months is one in the next month. -/
theorem splitMonths_take
    {index offset : Nat}
    (month : Nat)
    (hInside : index < lengths.length)
    (hOffset : offset < lengths[index]) :
    splitMonths month lengths
        ((lengths.take index).sum + offset) =
      (month + index, offset + 1) := by
  induction lengths generalizing month index with
  | nil => cases hInside
  | cons length rest ih =>
      cases index with
      | zero =>
          have hHere : offset < length := hOffset
          rw [List.take_zero, List.sum_nil, Nat.zero_add,
            splitMonths, if_pos hHere]
          rfl
      | succ index =>
          have hBehind :
              ¬ length + (rest.take index).sum + offset <
                length := by
            omega
          have hRest :
              length + (rest.take index).sum + offset -
                  length =
                (rest.take index).sum + offset := by
            omega
          rw [List.take_succ_cons, List.sum_cons, splitMonths,
            if_neg hBehind, hRest,
            ih (month + 1) (Nat.lt_of_succ_lt_succ hInside)
              hOffset,
            Nat.add_right_comm, Nat.add_assoc month]

/- A day of a year is found from its offset. -/
theorem splitMonths_monthLengths
    (hFirst : 1 ≤ month)
    (hLast : month ≤ 12)
    (hDay : 1 ≤ day)
    (hEnd : day ≤ monthLength year month) :
    splitMonths 1 (monthLengths (isLeap year))
        (daysBeforeMonth year month + (day - 1)) =
      (month, day) := by
  have hInside :
      month - 1 < (monthLengths (isLeap year)).length := by
    rw [length_monthLengths]
    omega
  have hOffset :
      day - 1 < (monthLengths (isLeap year))[month - 1] := by
    rw [monthLength, List.getD_eq_getElem _ _ hInside] at hEnd
    omega
  rw [daysBeforeMonth_eq, splitMonths_take 1 hInside hOffset,
    Nat.add_sub_cancel' hFirst, Nat.sub_add_cancel hDay]

end Date

end Spreadsheet

------------------------------------------------------------
-- Years
------------------------------------------------------------

namespace Spreadsheet

namespace Date

variable {year : Nat}

/- Which cycles of 400, 100 and 4 years a year is behind. -/
structure Cycles where
  cycle : Nat
  century : Nat
  four : Nat
  single : Nat
  century_lt : century < 4
  four_lt : four < 25
  single_lt : single < 4

namespace Cycles

variable (cycles : Cycles)

/- The number of years in front of the year. -/
def years : Nat :=
  cycles.cycle * 400 + cycles.century * 100 +
    cycles.four * 4 + cycles.single

/- The number of days in front of the year. -/
def days : Nat :=
  cycles.cycle * 146097 + cycles.century * 36524 +
    cycles.four * 1461 + cycles.single * 365

/-
  The last year of four has a leap day, but not that of the
  last four in a century unless the century is the last one.
-/
def EndsLeaping : Prop :=
  cycles.single = 3 ∧ (cycles.four = 24 → cycles.century = 3)

/- Each year has its place in the cycles. -/
theorem exists_years_eq
    (year : Nat) :
    ∃ cycles : Cycles, cycles.years = year := by
  refine
    ⟨⟨year / 400, year % 400 / 100, year % 400 % 100 / 4,
      year % 400 % 100 % 4, by omega, by omega, by omega⟩, ?_⟩
  simp only [years]
  omega

theorem daysBeforeYear_eq :
    daysBeforeYear (cycles.years + 1) = cycles.days := by
  rcases cycles with
    ⟨cycle, century, four, single, hCentury, hFour, hSingle⟩
  simp only [daysBeforeYear, years, days, Nat.add_sub_cancel]
  omega

theorem isLeap_iff :
    isLeap (cycles.years + 1) = true ↔ cycles.EndsLeaping := by
  rcases cycles with
    ⟨cycle, century, four, single, hCentury, hFour, hSingle⟩
  simp only [isLeap, years, EndsLeaping, Bool.and_eq_true,
    Bool.or_eq_true, beq_iff_eq, bne_iff_ne]
  omega

theorem daysBeforeYear_succ :
    daysBeforeYear (cycles.years + 1 + 1) =
      cycles.days + yearLength (cycles.years + 1) := by
  rw [yearLength]
  split
  · rename_i hLeap
    rw [cycles.isLeap_iff] at hLeap
    rcases cycles with
      ⟨cycle, century, four, single, hCentury, hFour, hSingle⟩
    simp only [daysBeforeYear, years, days, EndsLeaping,
      Nat.add_sub_cancel] at hLeap ⊢
    omega
  · rename_i hPlain
    rw [cycles.isLeap_iff] at hPlain
    rcases cycles with
      ⟨cycle, century, four, single, hCentury, hFour, hSingle⟩
    simp only [daysBeforeYear, years, days, EndsLeaping,
      Nat.add_sub_cancel] at hPlain ⊢
    omega

/- A day of a year is found from the number of days before. -/
theorem splitYear_eq
    {offset : Nat}
    (hOffset : offset < yearLength (cycles.years + 1)) :
    splitYear (cycles.days + offset + 1) =
      (cycles.years + 1, offset) := by
  have hLast :
      offset ≤ 365 ∧ (offset = 365 → cycles.EndsLeaping) := by
    rw [yearLength] at hOffset
    split at hOffset
    · rename_i hLeap
      exact ⟨by omega, fun _ => cycles.isLeap_iff.mp hLeap⟩
    · exact ⟨by omega, fun hSame => absurd hSame (by omega)⟩
  generalize hNumber : cycles.days + offset = number
  rcases cycles with
    ⟨cycle, century, four, single, hCentury, hFour, hSingle⟩
  simp only [EndsLeaping, days] at hLast hNumber
  -- The last day of each cycle is in its last part.
  have hCycle : number / 146097 = cycle := by omega
  have hInCycle :
      number % 146097 =
        century * 36524 + four * 1461 + single * 365 +
          offset := by
    omega
  have hInCentury :
      min (number % 146097 / 36524) 3 = century := by
    omega
  have hRest :
      number % 146097 - century * 36524 =
        four * 1461 + single * 365 + offset := by
    omega
  have hInFour :
      (four * 1461 + single * 365 + offset) / 1461 = four ∧
        (four * 1461 + single * 365 + offset) % 1461 =
          single * 365 + offset := by
    omega
  have hInSingle :
      min ((single * 365 + offset) / 365) 3 = single := by
    omega
  simp only [splitYear, years, Nat.add_sub_cancel, hCycle,
    hInCentury, hRest, hInFour, hInSingle,
    Nat.add_sub_cancel_left]

end Cycles

/- Before the next year there are the days of a year more. -/
theorem daysBeforeYear_succ
    (hYear : 1 ≤ year) :
    daysBeforeYear (year + 1) =
      daysBeforeYear year + yearLength year := by
  rcases Cycles.exists_years_eq (year - 1) with
    ⟨cycles, hYears⟩
  rw [← Nat.sub_add_cancel hYear, ← hYears,
    cycles.daysBeforeYear_succ, cycles.daysBeforeYear_eq]

/- A day of a year is found from its number. -/
theorem splitYear_eq
    {offset : Nat}
    (hYear : 1 ≤ year)
    (hOffset : offset < yearLength year) :
    splitYear (daysBeforeYear year + offset + 1) =
      (year, offset) := by
  rcases Cycles.exists_years_eq (year - 1) with
    ⟨cycles, hYears⟩
  rw [← Nat.sub_add_cancel hYear, ← hYears] at hOffset ⊢
  rw [cycles.daysBeforeYear_eq, cycles.splitYear_eq hOffset]

end Date

end Spreadsheet

------------------------------------------------------------
-- Days And Their Numbers
------------------------------------------------------------

namespace Spreadsheet

namespace Date

variable {date : Date}
variable {year month day : Nat}

/- The last day that is counted. -/
def lastDay : Date := ⟨lastYear, 12, 31⟩

/- What a day of the calendar is. -/
theorem isValid_iff :
    isValid ⟨year, month, day⟩ = true ↔
      (1 ≤ year ∧ year ≤ lastYear) ∧
        (1 ≤ month ∧ month ≤ 12) ∧
        1 ≤ day ∧ day ≤ monthLength year month := by
  rw [isValid]
  simp only [Bool.and_eq_true, decide_eq_true_eq, and_assoc]

theorem ordinal_eq
    (hDay : 1 ≤ day) :
    ordinal ⟨year, month, day⟩ =
      daysBeforeYear year +
        (daysBeforeMonth year month + (day - 1)) + 1 := by
  simp only [ordinal]
  omega

theorem monthLength_pos
    (hFirst : 1 ≤ month)
    (hLast : month ≤ 12) :
    1 ≤ monthLength year month := by
  rw [monthLength]
  cases isLeap year with
  | false => interval_cases month <;> decide
  | true => interval_cases month <;> decide

theorem monthLength_le
    (hLast : month ≤ 12) :
    monthLength year month ≤ 31 := by
  rw [monthLength]
  cases isLeap year with
  | false => interval_cases month <;> decide
  | true => interval_cases month <;> decide

/- The last month has 31 days. -/
theorem monthLength_twelve
    (year : Nat) :
    monthLength year 12 = 31 := by
  rw [monthLength]
  cases isLeap year with
  | false => rfl
  | true => rfl

/- The day with the number of a day is this day. -/
theorem ofOrdinal_ordinal
    (hValid : date.isValid = true) :
    ofOrdinal date.ordinal = date := by
  rcases date with ⟨year, month, day⟩
  rcases isValid_iff.mp hValid with
    ⟨⟨hYear, -⟩, ⟨hFirst, hLast⟩, hDay, hEnd⟩
  have hInside :
      daysBeforeMonth year month + monthLength year month ≤
        yearLength year :=
    daysBeforeMonth_add_le hFirst hLast
  rw [ofOrdinal, ordinal_eq hDay,
    splitYear_eq hYear (by omega)]
  simp only [splitMonths_monthLengths hFirst hLast hDay hEnd]

/- The day after a day has the next number. -/
theorem ordinal_next
    (hValid : date.isValid = true) :
    date.next.ordinal = date.ordinal + 1 := by
  rcases date with ⟨year, month, day⟩
  rcases isValid_iff.mp hValid with
    ⟨⟨hYear, -⟩, ⟨hFirst, hLast⟩, hDay, hEnd⟩
  simp only [next]
  split_ifs with hInMonth hInYear
  · rfl
  · rw [ordinal_eq le_rfl, ordinal_eq hDay,
      daysBeforeMonth_succ hFirst hLast]
    omega
  · have hMonth : month = 12 := by omega
    subst hMonth
    have hFirstMonth :
        daysBeforeMonth (year + 1) 1 = 0 := by
      rw [daysBeforeMonth_eq]
      rfl
    have hLength := daysBeforeMonth_thirteen year
    rw [ordinal_eq le_rfl, ordinal_eq hDay,
      daysBeforeYear_succ hYear, hFirstMonth]
    omega

/- The day after a day is one too, unless it is the last. -/
theorem isValid_next
    (hValid : date.isValid = true)
    (hMore : date ≠ lastDay) :
    date.next.isValid = true := by
  rcases date with ⟨year, month, day⟩
  rcases isValid_iff.mp hValid with
    ⟨⟨hYear, hLastYear⟩, ⟨hFirst, hLast⟩, hDay, hEnd⟩
  simp only [next]
  split_ifs with hInMonth hInYear
  · exact isValid_iff.mpr
      ⟨⟨hYear, hLastYear⟩, ⟨hFirst, hLast⟩,
        Nat.le_add_left 1 day, hInMonth⟩
  · exact isValid_iff.mpr
      ⟨⟨hYear, hLastYear⟩,
        ⟨Nat.le_add_left 1 month, hInYear⟩, le_rfl,
        monthLength_pos (Nat.le_add_left 1 month) hInYear⟩
  · have hMonth : month = 12 := by omega
    subst hMonth
    rw [monthLength_twelve] at hInMonth hEnd
    have hOther : year ≠ lastYear := by
      rintro rfl
      refine hMore ?_
      rw [lastDay, Date.mk.injEq]
      omega
    exact isValid_iff.mpr
      ⟨⟨Nat.le_add_left 1 year,
          lt_of_le_of_ne hLastYear hOther⟩,
        ⟨le_rfl, by decide⟩, le_rfl,
        monthLength_pos le_rfl (by decide)⟩

/- From a day on the days are counted one by one. -/
theorem iterate_next
    (hValid : date.isValid = true)
    {count : Nat}
    (hInside : date.ordinal + count ≤ lastOrdinal) :
    (next^[count] date).isValid = true ∧
      (next^[count] date).ordinal = date.ordinal + count := by
  induction count with
  | zero => exact ⟨hValid, rfl⟩
  | succ count ih =>
      rcases ih (by omega) with ⟨hBefore, hOrdinal⟩
      rw [Function.iterate_succ_apply']
      refine ⟨isValid_next hBefore fun hLast => ?_, ?_⟩
      · have hLastOrdinal : lastDay.ordinal = lastOrdinal := by
          decide
        rw [hLast, hLastOrdinal] at hOrdinal
        omega
      · rw [ordinal_next hBefore, hOrdinal, Nat.add_assoc]

/- The day with a later number is reached day by day. -/
theorem ofOrdinal_add
    (hValid : date.isValid = true)
    {count : Nat}
    (hInside : date.ordinal + count ≤ lastOrdinal) :
    ofOrdinal (date.ordinal + count) = next^[count] date := by
  rcases iterate_next hValid hInside with ⟨hLater, hOrdinal⟩
  rw [← hOrdinal, ofOrdinal_ordinal hLater]

end Date

end Spreadsheet
