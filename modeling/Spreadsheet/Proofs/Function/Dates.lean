import Spreadsheet.Proofs.Calendar.Written
import Spreadsheet.Proofs.Function.Slices
import Spreadsheet.Proofs.Number.Text

/-
  The functions that ask for a part of a date.

  Serial numbers count days: the first of them is the last
  day of a year, and each next number is the next day.  A
  fraction does not count.  The day of a number has the same
  parts if it is asked for by its text or by any text that
  denotes the number.  All other numbers are rejected.

  Key definitions include:
    * `Spreadsheet.Number.IsSerial`
    * `Spreadsheet.Date.firstSerial`
    * `Spreadsheet.Value.Denotes`
    * `Spreadsheet.Call.HasParts`
    * `Spreadsheet.Call.HasNoParts`

  Main results:
    * `Spreadsheet.Date.ofSerial_of_isSerial`
    * `Spreadsheet.Date.ofSerial_of_not_isSerial`
    * `Spreadsheet.Value.toDate_toText`
    * `Spreadsheet.Value.toDate_toText_moment`
    * `Spreadsheet.Call.hasParts_of_serial`
-/

------------------------------------------------------------
-- Integer Parts
------------------------------------------------------------

namespace Spreadsheet

namespace Number

variable {x : Float}

/- The integer part of what is worth one or more. -/
theorem truncate?_eq_floor
    (hFinite : isFinite x = true)
    (hFirst : 1 ≤ worth x) :
    truncate? x = some (⌊worth x⌋₊ : Int) := by
  rcases exists_scaled hFinite with
    ⟨negative, mantissa, exponent, hParts, -⟩
  have hPower : (0 : ℚ) < 2 ^ exponent := by positivity
  cases negative with
  | true =>
      have hWorth : worth x = -(mantissa * 2 ^ exponent) := by
        rw [worth, hParts]
        simp [Binary.signed]
      have hNone : (0 : ℚ) ≤ mantissa * 2 ^ exponent := by
        positivity
      linarith
  | false =>
      have hFloor :
          wholePart mantissa exponent = ⌊worth x⌋₊ := by
        apply eq_of_forall_le_iff
        intro count
        rw [le_wholePart_iff, ← worth_of_parts hParts,
          Nat.le_floor_iff (zero_le_one.trans hFirst)]
      rw [truncate?, hParts, truncate?_finite, hFloor]
      rfl

/- What is not finite has no integer part. -/
theorem truncate?_eq_none
    (hInfinite : isFinite x = false) :
    truncate? x = none := by
  rw [isFinite] at hInfinite
  rw [truncate?]
  cases hParts : Binary.ofFloat x with
  | nan => rfl
  | infinite negative => rfl
  | finite negative mantissa exponent =>
      rw [hParts] at hInfinite
      cases hInfinite

/- What is less than one. -/
theorem lt_one_iff_worth
    (hFinite : isFinite x = true) :
    x < 1.0 ↔ worth x < 1 := by
  rw [lt_iff_worth hFinite (by decide +kernel),
    Call.worth_zero_one.2, Nat.cast_one]

end Number

end Spreadsheet

------------------------------------------------------------
-- Serial Numbers
------------------------------------------------------------

namespace Spreadsheet

namespace Number

/- A number whose integer part is the number of a day. -/
structure IsSerial
    (serial : Float) : Prop where
  finite : isFinite serial = true
  first : 1 ≤ worth serial
  last : ⌊worth serial⌋₊ ≤ 2958465

variable {x y : Float}

/- No number is equal to a serial number but this one. -/
theorem IsSerial.eq_of_beq
    (hSerial : IsSerial x)
    (hEqual : (y == x) = true) :
    y = x := by
  have hZero : ¬ IsSerial 0.0 ∧ ¬ IsSerial (-0.0) := by
    constructor
    · intro hSerial
      have hFirst := hSerial.first
      rw [Call.worth_zero_one.1] at hFirst
      norm_num at hFirst
    · intro hSerial
      have hFirst := hSerial.first
      have hNone :
          Binary.ofFloat (-0.0) = .finite true 0 (-1074) := by
        decide +kernel
      rw [worth, hNone] at hFirst
      norm_num [Binary.signed] at hFirst
  rcases Float.beq_iff_ne_nan_and_eq.mp hEqual with
    ⟨-, -, hSame | ⟨-, rfl⟩ | ⟨-, rfl⟩⟩
  · exact hSame
  · exact absurd hSerial hZero.2
  · exact absurd hSerial hZero.1

end Number

namespace Date

open Number (IsSerial worth)

/- The day of the first serial number. -/
def firstSerial : Date := ⟨1899, 12, 31⟩

theorem isValid_firstSerial :
    firstSerial.isValid = true := by
  decide

theorem ordinal_firstSerial :
    firstSerial.ordinal = serialZero + 1 := by
  decide

variable {n : Nat}
variable {serial : Float}

/- The last of the serial numbers has the last day. -/
theorem serial_le_iff :
    serialZero + n ≤ lastOrdinal ↔ n ≤ 2958465 := by
  rw [serialZero, lastOrdinal]
  omega

/- The days of serial numbers follow each other. -/
theorem ofSerial?_eq_some
    (hFirst : 1 ≤ n)
    (hLast : n ≤ 2958465) :
    ofSerial? n = some (next^[n - 1] firstSerial) := by
  have hNumber :
      serialZero + n = firstSerial.ordinal + (n - 1) := by
    rw [ordinal_firstSerial]
    omega
  have hInside := serial_le_iff.mpr hLast
  rw [ofSerial?, if_pos hInside, hNumber,
    ofOrdinal_add isValid_firstSerial (hNumber ▸ hInside)]

/- All of them are days of the calendar. -/
theorem isValid_iterate_firstSerial
    (hLast : n ≤ 2958465) :
    (next^[n - 1] firstSerial).isValid = true := by
  refine (iterate_next isValid_firstSerial ?_).1
  rw [ordinal_firstSerial, serialZero, lastOrdinal]
  omega

/- The day of a serial number is that of its integer part. -/
theorem ofSerial_of_isSerial
    (hSerial : IsSerial serial) :
    ofSerial serial =
      .ok (next^[⌊worth serial⌋₊ - 1] firstSerial) := by
  have hWhole : 1 ≤ ⌊worth serial⌋₊ :=
    Nat.one_le_floor_iff _ |>.mpr hSerial.first
  have hNotLess : ¬ serial < 1.0 := by
    rw [Number.lt_one_iff_worth hSerial.finite, not_lt]
    exact hSerial.first
  have hDay := ofSerial?_eq_some hWhole hSerial.last
  simp only [ofSerial, if_neg hNotLess,
    Number.truncate?_eq_floor hSerial.finite hSerial.first,
    Option.bind_some, Int.toNat_natCast, hDay]

/- Other numbers have no day. -/
theorem ofSerial_of_not_isSerial
    (hOther : ¬ IsSerial serial) :
    ofSerial serial = .error (.invalidSerial serial) := by
  by_cases hLess : serial < 1.0
  · exact if_pos hLess
  · have hNone :
        ((Number.truncate? serial).bind fun n =>
          ofSerial? n.toNat) = none := by
      cases hFinite : Number.isFinite serial with
      | false =>
          rw [Number.truncate?_eq_none hFinite]
          rfl
      | true =>
          rw [Number.lt_one_iff_worth hFinite, not_lt]
            at hLess
          have hBeyond : ¬ ⌊worth serial⌋₊ ≤ 2958465 :=
            fun hLast => hOther ⟨hFinite, hLess, hLast⟩
          rw [Number.truncate?_eq_floor hFinite hLess,
            Option.bind_some, Int.toNat_natCast, ofSerial?,
            if_neg (serial_le_iff.not.mpr hBeyond)]
    simp only [ofSerial, if_neg hLess, hNone]

end Date

end Spreadsheet

------------------------------------------------------------
-- Texts That Are No Numbers
------------------------------------------------------------

namespace Spreadsheet

namespace Number

variable {digits rest : List Char}

/- A digit is no sign. -/
theorem splitSign_of_digit
    {c : Char}
    (hDigit : c.isDigit = true)
    (rest : List Char) :
    splitSign (c :: rest) = (false, c :: rest) := by
  refine splitSign_append .none ?_
  rintro _ ⟨⟩ hSign
  have hNone := not_isDigit_sign hSign
  rw [isDigit_of_ascii hDigit] at hNone
  cases hNone

/- Nor is it a mark of a base. -/
theorem base?_of_digit
    {c : Char}
    (hDigit : c.isDigit = true) :
    base? c = none := by
  cases hBase : base? c with
  | none => rfl
  | some base =>
      have hMarks :
          ∀ mark ∈ ['x', 'X', 'o', 'O', 'b', 'B'],
            mark.isDigit = false := by
        simp
      rw [hMarks c (mem_marks hBase)] at hDigit
      cases hDigit

/- What has a dash behind digits is no decimal. -/
theorem decimal?_dashed
    (hDigits : ∀ c ∈ digits, c.isDigit = true)
    (hSome : digits ≠ []) :
    decimal? (digits ++ '-' :: rest) = none := by
  have hSign :
      splitSign (digits ++ '-' :: rest) =
        (false, digits ++ '-' :: rest) := by
    rcases List.exists_cons_of_ne_nil hSome with
      ⟨c, digits, rfl⟩
    exact splitSign_of_digit (hDigits c List.mem_cons_self) _
  have hFront : ∀ c ∈ digits, Text.isDigit c = true :=
    fun c hMember => isDigit_of_ascii (hDigits c hMember)
  have hStop :
      ∀ c ∈ ('-' :: rest).head?, Text.isDigit c = false := by
    rintro _ ⟨⟩
    decide
  have hSplit :
      splitDecimal (digits ++ '-' :: rest) =
        (digits, [], '-' :: rest) := by
    simp only [splitDecimal,
      Text.takeWhile_append_stop hFront hStop,
      Text.dropWhile_append_stop hFront hStop]
    rfl
  have hExponent : exponent? ('-' :: rest) = none := rfl
  simp only [decimal?, hSign, hSplit, hExponent,
    Option.map_none, ite_self]

/- Nor is it a whole number in another base. -/
theorem radix?_dashed
    (hDigits : ∀ c ∈ digits, c.isDigit = true) :
    radix? (digits ++ '-' :: rest) = none := by
  match digits, hDigits with
  | [], _ => rfl
  | [c], _ =>
      simp only [List.singleton_append, radix?]
      split
      · rename_i hText
        cases hText
        rfl
      · rfl
  | first :: second :: digits, hDigits =>
      have hSecond : second.isDigit = true :=
        hDigits second
          (List.mem_cons_of_mem _ List.mem_cons_self)
      simp only [List.cons_append, radix?]
      split
      · rename_i hText
        cases hText
        rw [base?_of_digit hSecond]
        rfl
      · rfl

/- So it is no number. -/
theorem numeral_dashed
    (hDigits : ∀ c ∈ digits, c.isDigit = true)
    (hSome : digits ≠ []) :
    numeral (digits ++ '-' :: rest) = .none := by
  have hInfinity :
      infinity? (digits ++ '-' :: rest) = none := by
    rcases List.exists_cons_of_ne_nil hSome with
      ⟨c, digits, rfl⟩
    have hDigit := hDigits c List.mem_cons_self
    rw [List.cons_append, infinity?,
      splitSign_of_digit hDigit, if_neg]
    intro hWord
    have hHead : 'I' = c :=
      Option.some.inj (congrArg List.head? hWord).symm
    cases hHead
    cases hDigit
  rw [numeral, decimal?_dashed hDigits hSome, hInfinity,
    radix?_dashed hDigits]

end Number

end Spreadsheet

------------------------------------------------------------
-- Days And Moments As Texts
------------------------------------------------------------

namespace Spreadsheet

namespace Text

/- There is no white space in numbers. -/
theorem not_isBlank_of_mem_padded
    {c : Char}
    {width n : Nat}
    (hMember : c ∈ padded width n) :
    isBlank c = false :=
  Number.not_isBlank
    (.inr (Number.isDigit_of_ascii
      (isDigit_of_mem_padded hMember)))

/- Nothing is trimmed from between two of them. -/
theorem trim_padded
    (width width' m n : Nat)
    (middle : List Char) :
    trim (padded width m ++ (middle ++ padded width' n)) =
      padded width m ++ (middle ++ padded width' n) := by
  rcases List.exists_cons_of_ne_nil (padded_ne_nil width m)
    with ⟨first, front, hFront⟩
  rcases List.eq_nil_or_concat (padded width' n) with
    hNone | ⟨back, last, hBack⟩
  · exact absurd hNone (padded_ne_nil width' n)
  · rw [List.concat_eq_append] at hBack
    have hFirst : first ∈ padded width m :=
      hFront ▸ List.mem_cons_self
    have hLast : last ∈ padded width' n :=
      hBack ▸ List.mem_append_right _ List.mem_cons_self
    have hText :
        padded width m ++ (middle ++ padded width' n) =
          first :: (front ++ (middle ++ back)) ++ [last] := by
      simp only [hFront, hBack, List.cons_append,
        List.append_assoc]
    rw [hText]
    exact trim_of_ends (not_isBlank_of_mem_padded hFirst)
      (not_isBlank_of_mem_padded hLast) _

end Text

namespace Value

variable {date : Date}
variable {text : String}
variable {middle : List Char}
variable {width width' m n : Nat}

/-
  A text that begins with a number and a dash and ends with a
  number is a date or nothing.
-/
theorem toDate_dashed
    (hText :
      text.toList =
        padded width m ++ ('-' :: middle ++ padded width' n)) :
    toDate (.text text) =
      match Date.ofIsoText? text.toList with
      | some date => .ok date
      | none => .error (.unreadableDate text) := by
  have hTrim : Text.trim text.toList = text.toList := by
    rw [hText, Text.trim_padded]
  have hSome : text.toList.isEmpty = false := by
    rw [List.isEmpty_eq_false_iff, hText]
    exact List.append_ne_nil_of_left_ne_nil
      (padded_ne_nil width m) _
  have hNumeral : Number.numeral text.toList = .none := by
    rw [hText]
    exact Number.numeral_dashed
      (fun _ => isDigit_of_mem_padded) (padded_ne_nil width m)
  have hNumber : numberOfText text = .ok none := by
    rw [numberOfText]
    simp only [hTrim, hSome, hNumeral]
    rfl
  rw [toDate]
  simp only [hTrim, hSome, hNumber, Date.ofText]
  rfl

/- The text of a day is read as this day. -/
theorem toDate_toText
    (hValid : date.isValid = true) :
    toDate (.text date.toText) = .ok date := by
  have hText :
      date.toText.toList =
        padded 4 date.year ++
          ('-' :: (padded 2 date.month ++ ['-']) ++
            padded 2 date.day) := by
    rw [Date.toText, String.toList_ofList, Date.dashed]
    simp only [List.append_assoc, List.cons_append,
      List.nil_append]
  have hRead :
      Date.ofIsoText? date.toText.toList = some date := by
    rw [Date.toText, String.toList_ofList]
    exact Date.ofIsoText?_dashed hValid
  rw [toDate_dashed hText, hRead]

/- The text of a moment begins and ends with a number. -/
theorem toList_toText_moment
    (moment : Moment) :
    moment.toText.toList =
      padded 0 moment.date.year ++
        ('-' ::
            (padded 2 moment.date.month ++
              '-' :: (padded 2 moment.date.day ++
                ' ' :: (padded 2 moment.hour ++
                  ':' :: (padded 2 moment.minute ++
                    [':'])))) ++
          padded 2 moment.second) := by
  rw [Moment.toList_toText, Moment.time, Date.dashed]
  simp only [List.append_assoc, List.cons_append,
    List.nil_append]

/- It is read as its day behind a year of four digits. -/
theorem toDate_toText_moment
    {moment : Moment}
    (hShown : moment.IsShown)
    (hYear : 1000 ≤ moment.date.year) :
    toDate (.text moment.toText) = .ok moment.date := by
  rw [toDate_dashed (toList_toText_moment moment),
    Moment.ofIsoText?_toText hShown hYear]

/- Behind a shorter year it is not read. -/
theorem toDate_toText_moment_of_short
    {moment : Moment}
    (hYear : moment.date.year < 1000) :
    toDate (.text moment.toText) =
      .error (.unreadableDate moment.toText) := by
  rw [toDate_dashed (toList_toText_moment moment),
    Moment.ofIsoText?_toText_of_short hYear]

end Value

end Spreadsheet

------------------------------------------------------------
-- Parts Of Dates
------------------------------------------------------------

namespace Spreadsheet

namespace Value

open Number (IsSerial)

/- A text stands for a number that is equal to a number. -/
def Denotes
    (text : String)
    (number : Float) : Prop :=
  ∃ x, numberOfText text = .ok (some x) ∧
    (x == number) = true

variable {text : String}
variable {serial : Float}

/- A text of a serial number has the day of the number. -/
theorem toDate_of_denotes
    (hDenotes : Denotes text serial)
    (hSerial : IsSerial serial) :
    toDate (.text text) = Date.ofSerial serial := by
  rcases hDenotes with ⟨x, hRead, hEqual⟩
  cases hSerial.eq_of_beq hEqual
  have hSome : (Text.trim text.toList).isEmpty = false := by
    by_contra hBlank
    rw [Bool.not_eq_false] at hBlank
    rw [numberOfText] at hRead
    simp only [hBlank, if_true, Except.ok.injEq,
      Option.some.injEq] at hRead
    cases hRead
    have hFirst := hSerial.first
    rw [Call.worth_zero_one.1] at hFirst
    norm_num at hFirst
  rw [toDate]
  simp only [hSome, hRead]
  rfl

/- A text of any other number has no day. -/
theorem toDate_of_denotes_other
    (hDenotes : Denotes text serial)
    (hOther : ¬ IsSerial serial) :
    ∃ failure,
      toDate (.text text) = .error failure ∧
        failure.code = "#VALUE!" := by
  rcases hDenotes with ⟨x, hRead, hEqual⟩
  have hX : ¬ IsSerial x := by
    intro hSerial
    have hSame := hSerial.eq_of_beq (BEq.symm hEqual)
    exact hOther (hSame ▸ hSerial)
  rw [toDate]
  cases hBlank : (Text.trim text.toList).isEmpty with
  | true =>
      refine ⟨.unreadableDate text, ?_, rfl⟩
      rw [if_pos rfl, Date.ofText,
        List.isEmpty_iff.mp hBlank]
      rfl
  | false =>
      refine ⟨.invalidSerial x, ?_, rfl⟩
      simp only [hRead]
      exact Date.ofSerial_of_not_isSerial hX

end Value

namespace Call

open Number (IsSerial worth)
open Value (Denotes)

/- The functions that ask for a part of a date. -/
inductive AsksFor :
    Function → (Date → Nat) → Prop where
  | year : AsksFor .year Date.year
  | month : AsksFor .month Date.month
  | day : AsksFor .day Date.day

/- A value has the parts of a day. -/
def HasParts
    (value : Value)
    (date : Date) : Prop :=
  ∀ function part, AsksFor function part →
    Returns function [value] (.ofNat (part date))

/- A value has no parts of a day. -/
def HasNoParts
    (value : Value) : Prop :=
  ∀ function part, AsksFor function part →
    Rejects function [value]

variable {value : Value}
variable {date : Date}

/- All these functions answer in the same way. -/
theorem AsksFor.answer_eq
    {function : Function}
    {part : Date → Nat}
    (hAsks : AsksFor function part)
    (value : Value) :
    (on function [value]).answer =
      .settled
        (value.toDate.map fun date => .ofNat (part date)) := by
  have hPart :
      (on function [value]).datePart part =
        value.toDate.map fun date => .ofNat (part date) := by
    change (value.toDate >>= _) = _
    cases value.toDate with
    | error failure => rfl
    | ok date => rfl
  rw [← hPart]
  cases hAsks with
  | year => rfl
  | month => rfl
  | day => rfl

/- A value with a day has its parts. -/
theorem hasParts_of_toDate
    (hDate : value.toDate = .ok date) :
    HasParts value date := by
  intro function part hAsks
  rw [Returns, hAsks.answer_eq, hDate]
  rfl

/- A value without a day has none. -/
theorem hasNoParts_of_toDate
    (hDate :
      ∃ failure,
        value.toDate = .error failure ∧
          failure.code = "#VALUE!") :
    HasNoParts value := by
  rcases hDate with ⟨failure, hDate, hCode⟩
  intro function part hAsks
  refine ⟨failure, ?_, hCode⟩
  rw [hAsks.answer_eq, hDate]
  rfl

/-
  The parts of a serial number are those of the day that is
  reached day by day, and they are those of the text of this
  day and of each text of the number.  Other numbers and
  their texts are rejected.  A finite number has a text.
-/
theorem hasParts_of_serial
    (serial : Float) :
    (IsSerial serial →
      ∃ date,
        date =
            Date.next^[⌊worth serial⌋₊ - 1]
              Date.firstSerial ∧
          date.isValid = true ∧
          HasParts (.number serial) date ∧
          HasParts (.text date.toText) date ∧
          ∀ text, Denotes text serial →
            HasParts (.text text) date) ∧
    (¬ IsSerial serial →
      HasNoParts (.number serial) ∧
        ∀ text, Denotes text serial →
          HasNoParts (.text text)) ∧
    (Number.isFinite serial = true →
      Denotes (String.ofList (Number.toText serial))
        serial) := by
  refine ⟨fun hSerial => ?_, fun hOther => ?_,
    fun hFinite => ?_⟩
  · have hDay := Date.ofSerial_of_isSerial hSerial
    have hValid :=
      Date.isValid_iterate_firstSerial hSerial.last
    refine ⟨_, rfl, hValid, hasParts_of_toDate hDay,
      hasParts_of_toDate (Value.toDate_toText hValid), ?_⟩
    intro text hDenotes
    exact hasParts_of_toDate
      ((Value.toDate_of_denotes hDenotes hSerial).trans hDay)
  · have hNone := Date.ofSerial_of_not_isSerial hOther
    refine ⟨hasNoParts_of_toDate ⟨_, hNone, rfl⟩, ?_⟩
    intro text hDenotes
    exact hasNoParts_of_toDate
      (Value.toDate_of_denotes_other hDenotes hOther)
  · exact Number.numberOfText_toText
      (Number.isNaN_of_isFinite hFinite)

/-
  The year 1900 has no leap day: behind the day 59 there is
  the first of March.  The number one half is no day.
-/
theorem hasParts_of_serial_march :
    (IsSerial 61.75 ∧
      HasParts (.number 61.75) ⟨1900, 3, 1⟩ ∧
      HasParts (.text "1900-03-01") ⟨1900, 3, 1⟩ ∧
      HasParts (.text "61.75") ⟨1900, 3, 1⟩) ∧
    (¬ IsSerial 0.5 ∧ HasNoParts (.number 0.5)) ∧
    (Number.isFinite 0.5 = true ∧
      Denotes (String.ofList (Number.toText 0.5)) 0.5) := by
  have hSerialParts :
      Number.Binary.ofFloat 61.75 =
        .finite false (247 * 2 ^ 45) (-47) := by
    decide +kernel
  have hSerialWorth : worth 61.75 = 61 + 3 / 4 := by
    rw [Number.worth_of_parts hSerialParts]
    norm_num
  have hWhole : ⌊worth 61.75⌋₊ = 61 := by
    rw [hSerialWorth]
    norm_num
  have hHalfParts :
      Number.Binary.ofFloat 0.5 =
        .finite false (2 ^ 52) (-53) := by
    decide +kernel
  have hSerial : IsSerial 61.75 :=
    ⟨by decide +kernel, by rw [hSerialWorth]; norm_num,
      by rw [hWhole]; decide⟩
  have hOther : ¬ IsSerial 0.5 := by
    intro hHalf
    have hFirst := hHalf.first
    rw [Number.worth_of_parts hHalfParts] at hFirst
    norm_num at hFirst
  have hDay :
      Date.next^[⌊worth 61.75⌋₊ - 1] Date.firstSerial =
        ⟨1900, 3, 1⟩ := by
    rw [hWhole]
    decide +kernel
  have hText : Denotes "61.75" 61.75 := by
    have hSame :
        String.ofList (Number.toText 61.75) = "61.75" := by
      decide +kernel
    exact hSame ▸
      (hasParts_of_serial 61.75).2.2 hSerial.finite
  have hHalf : Number.isFinite 0.5 = true := by
    decide +kernel
  rcases (hasParts_of_serial 61.75).1 hSerial with
    ⟨date, hDate, -, hNumber, hWritten, hTexts⟩
  rw [hDay] at hDate
  cases hDate
  exact
    ⟨⟨hSerial, hNumber, hWritten, hTexts _ hText⟩,
      ⟨hOther, ((hasParts_of_serial 0.5).2.1 hOther).1⟩,
      hHalf, (hasParts_of_serial 0.5).2.2 hHalf⟩

end Call

end Spreadsheet
