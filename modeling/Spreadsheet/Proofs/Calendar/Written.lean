import Spreadsheet.Calendar.IsoText
import Spreadsheet.Proofs.Calendar.Days
import Spreadsheet.Proofs.Text.Digits
import Spreadsheet.Proofs.Text.Visible

/-
  Days and moments, read back from their texts.

  A number is padded so that it has its width and its value.
  So a day is read back from its text, and from that of any
  moment of it if the year has four digits there.  Years that
  are shorter are not padded in the text of a moment, and then
  no day is read.

  Key definitions include:
    * `Spreadsheet.Moment.IsShown`
    * `Spreadsheet.Moment.time`

  Main results:
    * `Spreadsheet.IsoText.number?_padded`
    * `Spreadsheet.Date.ofIsoText?_dashed`
    * `Spreadsheet.Moment.ofIsoText?_toText`
    * `Spreadsheet.Moment.ofIsoText?_toText_of_short`
-/

------------------------------------------------------------
-- Padded Numbers
------------------------------------------------------------

namespace Spreadsheet

open Text (decimal decimalValue)

variable {width n : Nat}

/- The codes of digits. -/
theorem toNat_of_isDigit
    {c : Char}
    (hDigit : c.isDigit = true) :
    48 ≤ c.toNat ∧ c.toNat ≤ 57 :=
  Char.isDigit_iff_toNat.mp hDigit

/- Zeros and the digits of a number are digits. -/
theorem isDigit_of_mem_padded
    {c : Char}
    (hMember : c ∈ padded width n) :
    c.isDigit = true := by
  rcases List.mem_append.mp hMember with hZero | hDigit
  · exact Text.isDigit_of_mem_zeros hZero
  · exact Text.isDigit_of_mem_decimal hDigit

theorem ascii_of_mem_padded
    {c : Char}
    (hMember : c ∈ padded width n) :
    c.toNat < 128 :=
  (toNat_of_isDigit (isDigit_of_mem_padded hMember)).2.trans_lt
    (by decide)

theorem padded_ne_nil
    (width n : Nat) :
    padded width n ≠ [] :=
  List.append_ne_nil_of_right_ne_nil _
    (Text.decimal_ne_nil n)

/- A number that is not too great has its width. -/
theorem length_padded
    (hWidth : 0 < width)
    (hSmall : n < 10 ^ width) :
    (padded width n).length = width := by
  have hLength : (decimal n).length ≤ width :=
    (Nat.length_toDigits_le_iff (by decide) hWidth).mpr hSmall
  simp only [padded]
  rw [List.length_append, List.length_replicate,
    Nat.sub_add_cancel hLength]

/- Zeros in front of a number are of no value. -/
theorem decimalValue_padded
    (width n : Nat) :
    decimalValue (padded width n) = n := by
  simp only [padded]
  rw [Text.decimalValue_zeros_append _ fun _ =>
    Text.isDigit_of_mem_decimal, Text.decimalValue_decimal]

/- A number that is long enough is not padded. -/
theorem padded_of_long
    (hLong : 10 ^ width ≤ n) :
    padded (width + 1) n = padded 0 n := by
  have hLength : width + 1 ≤ (decimal n).length := by
    rcases Nat.eq_zero_or_pos width with rfl | hWidth
    · exact List.length_pos_iff.mpr (Text.decimal_ne_nil n)
    · by_contra hShort
      have hFew : (decimal n).length ≤ width := by omega
      have hSmall :=
        (Nat.length_toDigits_le_iff (by decide) hWidth).mp hFew
      omega
  simp only [padded]
  rw [Nat.sub_eq_zero_of_le hLength, Nat.zero_sub]

end Spreadsheet

------------------------------------------------------------
-- Numbers Of Bytes
------------------------------------------------------------

namespace Spreadsheet

namespace IsoText

variable {width count n : Nat}
variable {digits text : List Char}
variable {rest : List Nat}

/- Characters of ASCII have their codes as bytes. -/
theorem bytes_of_ascii
    (hAscii : ∀ c ∈ text, c.toNat < 128) :
    (Text.encode text).map UInt8.toNat = text.map code := by
  rw [Text.encode_of_ascii hAscii, List.map_map]
  refine List.map_congr_left fun c hMember => ?_
  have hSmall := hAscii c hMember
  rw [Function.comp_apply, Nat.toUInt8_eq,
    UInt8.toNat_ofNat', Nat.mod_eq_of_lt (by omega)]
  rfl

/- A digit has the byte of a digit. -/
theorem isDigit_code
    {c : Char}
    (hDigit : c.isDigit = true) :
    isDigit (code c) = true := by
  rw [isDigit, Bool.and_eq_true, decide_eq_true_eq,
    decide_eq_true_eq]
  exact toNat_of_isDigit hDigit

/- The bytes of digits stand for what the digits denote. -/
theorem positional_codes
    (hDigits : ∀ c ∈ digits, c.isDigit = true) :
    Text.positional 10
        ((digits.map code).map (· - code '0')) =
      Text.decimalValue digits := by
  have hValues :
      digits.filterMap Text.digit? =
        (digits.map code).map (· - code '0') := by
    rw [List.map_map, ← List.filterMap_eq_map]
    exact List.filterMap_congr fun c hMember =>
      Text.digit?_of_isDigit (hDigits c hMember)
  rw [Text.decimalValue, hValues]

/- A number of as many digits as are asked for is read. -/
theorem number?_digits
    (hDigits : ∀ c ∈ digits, c.isDigit = true)
    (rest : List Nat) :
    number? digits.length (digits.map code ++ rest) =
      some (Text.decimalValue digits, rest) := by
  have hLength : (digits.map code).length = digits.length :=
    List.length_map code
  have hAll : (digits.map code).all isDigit = true := by
    rw [List.all_eq_true, List.forall_mem_map]
    exact fun c hMember => isDigit_code (hDigits c hMember)
  simp only [number?, List.take_left' hLength,
    List.drop_left' hLength, hLength, hAll,
    positional_codes hDigits]
  rfl

/- A padded number is read. -/
theorem number?_padded
    (hWidth : 0 < width)
    (hSmall : n < 10 ^ width)
    (rest : List Nat) :
    number? width ((padded width n).map code ++ rest) =
      some (n, rest) := by
  have hDigits : ∀ c ∈ padded width n, c.isDigit = true :=
    fun _ => isDigit_of_mem_padded
  have hNumber := number?_digits hDigits rest
  rwa [length_padded hWidth hSmall, decimalValue_padded]
    at hNumber

/- A number of less digits than are asked for is not read. -/
theorem number?_of_short
    {mark : Nat}
    (hShort : digits.length < count)
    (hMark : isDigit mark = false)
    (rest : List Nat) :
    number? count (digits.map code ++ mark :: rest) =
      none := by
  have hMember :
      mark ∈ (digits.map code ++ mark :: rest).take count := by
    rcases Nat.exists_eq_add_of_lt hShort with ⟨more, rfl⟩
    have hLength :
        (digits.map code).length = digits.length :=
      List.length_map code
    rw [Nat.add_assoc, ← hLength, List.take_length_add_append,
      List.take_succ_cons]
    exact List.mem_append_right _ List.mem_cons_self
  have hNot :
      ((digits.map code ++ mark :: rest).take count).all
        isDigit = false := by
    rw [List.all_eq_false]
    exact ⟨mark, hMember, by rw [hMark]; decide⟩
  simp only [number?, hNot, Bool.and_false, Bool.false_eq_true,
    if_false]

/- Digits are no mark that is not a digit. -/
theorem expect?_padded
    {mark : Nat}
    (hMark : isDigit mark = false)
    (rest : List Nat) :
    expect? mark ((padded width n).map code ++ rest) =
      none := by
  rcases List.exists_cons_of_ne_nil (padded_ne_nil width n)
    with ⟨c, digits, hDigits⟩
  have hDigit : c.isDigit = true :=
    isDigit_of_mem_padded (hDigits ▸ List.mem_cons_self)
  have hOther : code c ≠ mark := by
    rintro rfl
    rw [isDigit_code hDigit] at hMark
    cases hMark
  rw [hDigits, List.map_cons, List.cons_append, expect?,
    if_neg hOther]

/- A mark that is expected is passed over. -/
theorem expect?_self
    (mark : Nat)
    (rest : List Nat) :
    expect? mark (mark :: rest) = some rest :=
  if_pos rfl

/- Month and day behind a year are read. -/
theorem monthDate?_padded
    {month day : Nat}
    (year : Nat)
    (hMonth : month < 10 ^ 2)
    (hDay : day < 10 ^ 2)
    (rest : List Nat) :
    monthDate? year true
        ((padded 2 month).map code ++
          code '-' :: ((padded 2 day).map code ++ rest)) =
      day? year month day := by
  simp only [monthDate?, number?_padded two_pos hMonth,
    Option.bind_eq_bind, Option.bind_some, if_true,
    expect?_self, number?_padded two_pos hDay]

/- A year with a month behind it begins a date by month. -/
theorem dateAt?_padded
    {year : Nat}
    (hYear : year < 10 ^ 4)
    (length width month : Nat)
    (rest : List Nat) :
    dateAt? length
        ((padded 4 year).map code ++
          code '-' :: ((padded width month).map code ++ rest)) =
      monthDate? year true
        ((padded width month).map code ++ rest) := by
  have hWeek : isDigit (code 'W') = false := by decide
  simp only [dateAt?, number?_padded four_pos hYear,
    Option.bind_eq_bind, Option.bind_some, List.head?_cons,
    beq_self_eq_true, if_true, List.drop_succ_cons,
    List.drop_zero, expect?_padded hWeek]

/- A date by month ends at the same place if a time follows. -/
theorem separatorAt_padded
    {year : Nat}
    (hYear : year < 10 ^ 4)
    (width month : Nat)
    (rest : List Nat)
    (hLong : 2 ≤ rest.length) :
    separatorAt
        ((padded 4 year).map code ++
          code '-' :: ((padded width month).map code ++ rest)) =
      10 := by
  have hFour : ((padded 4 year).map code).length = 4 := by
    rw [List.length_map, length_padded four_pos hYear]
  rcases List.exists_cons_of_ne_nil
    (padded_ne_nil width month) with ⟨c, digits, hDigits⟩
  have hDigit : c.isDigit = true :=
    isDigit_of_mem_padded (hDigits ▸ List.mem_cons_self)
  have hMonth : code c ≠ code 'W' := by
    intro hSame
    have hNot : isDigit (code 'W') = false := by decide
    rw [← hSame, isDigit_code hDigit] at hNot
    cases hNot
  rw [separatorAt, if_neg, if_pos, if_neg]
  · rw [byteAt, List.getD_append_right _ _ _ _ (by omega),
      hFour, hDigits]
    exact hMonth
  · rw [byteAt, List.getD_append_right _ _ _ _ (by omega),
      hFour]
    rfl
  · rw [List.length_append, List.length_cons,
      List.length_append, hFour, hDigits, List.map_cons,
      List.length_cons]
    omega

/- A year of less than four digits begins no date. -/
theorem dateAt?_of_short
    {year : Nat}
    (hShort : year < 1000)
    (length : Nat)
    (rest : List Nat) :
    dateAt? length
        ((padded 0 year).map code ++ code '-' :: rest) =
      none := by
  have hFew : (padded 0 year).length < 4 := by
    have hLength :=
      (Nat.length_toDigits_le_iff (k := 3) (n := year)
        (b := 10) (by decide) (by decide)).mpr hShort
    simp only [padded, Nat.zero_sub, List.replicate_zero,
      List.nil_append]
    exact Nat.lt_succ_of_le hLength
  have hMark : isDigit (code '-') = false := by decide
  rw [dateAt?, number?_of_short hFew hMark]
  rfl

end IsoText

end Spreadsheet

------------------------------------------------------------
-- Days
------------------------------------------------------------

namespace Spreadsheet

namespace Date

open IsoText (code dateAt?)

variable {date : Date}

/- The parts of a day fit into their widths. -/
theorem parts_lt
    (hValid : date.isValid = true) :
    date.year < 10 ^ 4 ∧ date.month < 10 ^ 2 ∧
      date.day < 10 ^ 2 := by
  rcases date with ⟨year, month, day⟩
  rcases isValid_iff.mp hValid with
    ⟨⟨-, hYear⟩, ⟨-, hMonth⟩, -, hDay⟩
  have hLast : lastYear = 9999 := rfl
  have hLength : monthLength year month ≤ 31 :=
    monthLength_le hMonth
  dsimp only
  omega

/- A day with a year of four digits has ten characters. -/
theorem length_dashed
    (hValid : date.isValid = true) :
    (date.dashed 4).length = 10 := by
  rcases parts_lt hValid with ⟨hYear, hMonth, hDay⟩
  simp only [dashed, List.length_append, List.length_cons,
    length_padded four_pos hYear,
    length_padded two_pos hMonth, length_padded two_pos hDay,
    Nat.reduceAdd]

/- Nothing but ASCII is in the text of a day. -/
theorem ascii_of_mem_dashed
    {yearWidth : Nat}
    {c : Char}
    (hMember : c ∈ date.dashed yearWidth) :
    c.toNat < 128 := by
  simp only [dashed, List.mem_append, List.mem_cons]
    at hMember
  rcases hMember with
    (hDigit | rfl | hDigit) | rfl | hDigit
  · exact ascii_of_mem_padded hDigit
  · decide
  · exact ascii_of_mem_padded hDigit
  · decide
  · exact ascii_of_mem_padded hDigit

/- The day at the front of bytes is read. -/
theorem dateAt?_dashed
    (hValid : date.isValid = true)
    (length : Nat)
    (rest : List Nat) :
    dateAt? length ((date.dashed 4).map code ++ rest) =
      some date := by
  rcases parts_lt hValid with ⟨hYear, hMonth, hDay⟩
  simp only [dashed, List.map_append, List.map_cons,
    List.append_assoc, List.cons_append]
  rw [IsoText.dateAt?_padded hYear,
    IsoText.monthDate?_padded _ hMonth hDay]
  exact if_pos hValid

/- A day is read back from its text. -/
theorem ofIsoText?_dashed
    (hValid : date.isValid = true) :
    ofIsoText? (date.dashed 4) = some date := by
  have hDate := dateAt?_dashed hValid 10 []
  rw [List.append_nil] at hDate
  have hLength :
      ((date.dashed 4).map code).length = 10 := by
    rw [List.length_map, length_dashed hValid]
  simp only [ofIsoText?,
    IsoText.bytes_of_ascii fun _ => ascii_of_mem_dashed,
    hLength, hDate]
  rfl

end Date

end Spreadsheet

------------------------------------------------------------
-- Times Of Day
------------------------------------------------------------

namespace Spreadsheet

namespace IsoText

variable {n left : Nat}
variable {done : List Nat}
variable {colons followed : Bool}

/- A number of a time is read up to the colon behind it. -/
theorem numbers?_colon
    {rest : List Nat}
    (hSmall : n < 10 ^ 2)
    (hDivided : done = [] ∨ colons = true)
    (hRest : rest ≠ []) :
    numbers? done colons followed (left + 1)
        ((padded 2 n).map code ++ code ':' :: rest) =
      numbers? (done ++ [n]) true followed left rest := by
  rcases List.exists_cons_of_ne_nil hRest with
    ⟨byte, rest, rfl⟩
  have hColons :
      (if done.isEmpty = true then
        (code ':' :: byte :: rest).head? == some (code ':')
      else colons) = true := by
    split
    · rfl
    · rename_i hSome
      exact hDivided.resolve_left
        (hSome ∘ List.isEmpty_iff.mpr)
  simp only [numbers?, number?_padded two_pos hSmall,
    Option.bind_eq_bind, Option.bind_some, hColons,
    Bool.true_and, beq_self_eq_true, if_true]

/- The last number of a time ends it. -/
theorem numbers?_last
    (hSmall : n < 10 ^ 2) :
    numbers? done colons followed (left + 1)
        ((padded 2 n).map code) =
      some (.ofNumbers (done ++ [n]) 0, followed) := by
  have hNumber := number?_padded two_pos hSmall []
  rw [List.append_nil] at hNumber
  simp only [numbers?, hNumber, Option.bind_eq_bind,
    Option.bind_some]
  rfl

end IsoText

namespace Moment

open IsoText (code)

/- A moment of a day of the calendar, as clocks show it. -/
structure IsShown
    (moment : Moment) : Prop where
  date : moment.date.isValid = true
  hour : moment.hour < 24
  minute : moment.minute < 60
  second : moment.second < 60

/- The time of day of a moment as text. -/
def time
    (moment : Moment) :
    List Char :=
  padded 2 moment.hour ++
    ':' :: (padded 2 moment.minute ++
      ':' :: padded 2 moment.second)

variable {moment : Moment}

/- A time of day has nothing but digits and colons. -/
theorem isDigit_of_mem_time
    {c : Char}
    (hMember : c ∈ moment.time) :
    c.isDigit = true ∨ c = ':' := by
  simp only [time, List.mem_append, List.mem_cons] at hMember
  rcases hMember with
    hDigit | hColon | hDigit | hColon | hDigit
  · exact .inl (isDigit_of_mem_padded hDigit)
  · exact .inr hColon
  · exact .inl (isDigit_of_mem_padded hDigit)
  · exact .inr hColon
  · exact .inl (isDigit_of_mem_padded hDigit)

/- The clock of a moment is read from its time of day. -/
theorem clock?_time
    (hShown : moment.IsShown)
    (followed : Bool) :
    IsoText.clock? (moment.time.map code) followed =
      some
        (⟨moment.hour, moment.minute, moment.second, 0⟩,
          followed) := by
  have hHour : moment.hour < 10 ^ 2 :=
    hShown.hour.trans (by decide)
  have hMinute : moment.minute < 10 ^ 2 :=
    hShown.minute.trans (by decide)
  have hSecond : moment.second < 10 ^ 2 :=
    hShown.second.trans (by decide)
  simp only [IsoText.clock?, time, List.map_append,
    List.map_cons]
  rw [IsoText.numbers?_colon hHour (.inl rfl) (by simp),
    IsoText.numbers?_colon hMinute (.inr rfl)
      (by simp [padded_ne_nil]),
    IsoText.numbers?_last hSecond]
  rfl

/- No offset starts inside a time of day. -/
theorem takeWhile_time
    (moment : Moment) :
    (moment.time.map code).takeWhile
        (fun byte => !IsoText.startsOffset byte) =
      moment.time.map code := by
  rw [List.takeWhile_eq_self_iff, List.forall_mem_map]
  intro c hMember
  have hRange : 48 ≤ code c ∧ code c ≤ 58 := by
    rcases isDigit_of_mem_time hMember with hDigit | rfl
    · have hDigits := toNat_of_isDigit hDigit
      exact ⟨hDigits.1, hDigits.2.trans (by decide)⟩
    · decide
  have hMarks :
      code '+' = 43 ∧ code '-' = 45 ∧ code 'Z' = 90 := by
    decide
  simp only [IsoText.startsOffset, hMarks, Bool.not_eq_true',
    Bool.or_eq_false_iff, beq_eq_false_iff_ne]
  omega

/- A time of day is one. -/
theorem isTime_time
    (hShown : moment.IsShown) :
    IsoText.isTime (moment.time.map code) = true := by
  simp only [IsoText.isTime, takeWhile_time, List.drop_length,
    clock?_time hShown, IsoText.Clock.isValid, hShown.hour,
    hShown.minute, hShown.second]
  rfl

end Moment

end Spreadsheet

------------------------------------------------------------
-- Moments
------------------------------------------------------------

namespace Spreadsheet

namespace Moment

open IsoText (code)

variable {moment : Moment}

/- The text of a moment: its day, a blank and its time. -/
theorem toList_toText
    (moment : Moment) :
    moment.toText.toList =
      moment.date.dashed 0 ++ ' ' :: moment.time := by
  rw [toText, String.toList_ofList, time]
  simp only [List.append_assoc, List.cons_append]

/- Nothing but ASCII is in the text of a moment. -/
theorem ascii_of_mem_toText
    {c : Char}
    (hMember : c ∈ moment.toText.toList) :
    c.toNat < 128 := by
  rw [toList_toText, List.mem_append, List.mem_cons] at hMember
  rcases hMember with hDate | rfl | hTime
  · exact Date.ascii_of_mem_dashed hDate
  · decide
  · rcases isDigit_of_mem_time hTime with hDigit | rfl
    · exact (toNat_of_isDigit hDigit).2.trans_lt (by decide)
    · decide

/- A moment is as long as the widths of its parts ask for. -/
theorem length_toText
    (hShown : moment.IsShown)
    (hDashed : moment.date.dashed 0 = moment.date.dashed 4) :
    moment.toText.toList.length = 19 := by
  have hHour : moment.hour < 10 ^ 2 :=
    hShown.hour.trans (by decide)
  have hMinute : moment.minute < 10 ^ 2 :=
    hShown.minute.trans (by decide)
  have hSecond : moment.second < 10 ^ 2 :=
    hShown.second.trans (by decide)
  simp only [toList_toText, hDashed, time, List.length_append,
    List.length_cons, Date.length_dashed hShown.date,
    length_padded two_pos hHour, length_padded two_pos hMinute,
    length_padded two_pos hSecond, Nat.reduceAdd]

/- The day of a moment is read behind a year of four digits. -/
theorem ofIsoText?_toText
    (hShown : moment.IsShown)
    (hYear : 1000 ≤ moment.date.year) :
    Date.ofIsoText? moment.toText.toList =
      some moment.date := by
  have hDashed :
      moment.date.dashed 0 = moment.date.dashed 4 := by
    have hWidth :
        padded (3 + 1) moment.date.year =
          padded 0 moment.date.year :=
      padded_of_long hYear
    rw [Date.dashed, Date.dashed, ← hWidth]
  have hCodes :
      moment.toText.toList.map code =
        (moment.date.dashed 4).map code ++
          (code ' ' :: moment.time.map code) := by
    rw [toList_toText, hDashed, List.map_append, List.map_cons]
  have hLength := length_toText hShown hDashed
  rw [← List.length_map code] at hLength
  have hStop :
      IsoText.separatorAt (moment.toText.toList.map code) =
        10 := by
    rcases Date.parts_lt hShown.date with ⟨hYear, -, -⟩
    rw [hCodes, Date.dashed]
    simp only [List.map_append, List.map_cons,
      List.append_assoc, List.cons_append]
    refine IsoText.separatorAt_padded hYear 2 _ _ ?_
    rw [List.length_cons, List.length_append, List.length_cons]
    omega
  have hTen :
      ((moment.date.dashed 4).map code).length = 10 := by
    rw [List.length_map, Date.length_dashed hShown.date]
  have hBehind :
      (moment.toText.toList.map code).drop 10 =
        code ' ' :: moment.time.map code := by
    rw [hCodes, List.drop_left' hTen]
  have hDate :
      IsoText.dateAt? 10 (moment.toText.toList.map code) =
        some moment.date := by
    rw [hCodes, Date.dateAt?_dashed hShown.date]
  have hTime :
      IsoText.dateWithTime?
          (moment.toText.toList.map code) =
        some moment.date := by
    simp only [IsoText.dateWithTime?, hStop, hDate, hLength,
      hBehind, Option.bind_eq_bind, Option.bind_some]
    exact if_pos (isTime_time hShown)
  simp only [Date.ofIsoText?,
    IsoText.bytes_of_ascii fun _ => ascii_of_mem_toText,
    hLength, hTime]
  rfl

/- A year of less than four digits is not read. -/
theorem ofIsoText?_toText_of_short
    (hYear : moment.date.year < 1000) :
    Date.ofIsoText? moment.toText.toList = none := by
  have hDate :
      ∀ length,
        IsoText.dateAt? length
            (moment.toText.toList.map code) =
          none := by
    intro length
    rw [toList_toText, Date.dashed]
    simp only [List.map_append, List.map_cons,
      List.append_assoc, List.cons_append]
    exact IsoText.dateAt?_of_short hYear length _
  simp only [Date.ofIsoText?,
    IsoText.bytes_of_ascii fun _ => ascii_of_mem_toText,
    hDate, IsoText.dateWithTime?]
  split
  · rfl
  · rfl

end Moment

end Spreadsheet
