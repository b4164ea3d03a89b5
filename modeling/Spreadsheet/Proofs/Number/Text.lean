import Spreadsheet.Function.Answer
import Spreadsheet.Proofs.Number.Coercion
import Spreadsheet.Proofs.Number.Equality
import Spreadsheet.Proofs.Number.Parts
import Spreadsheet.Proofs.Number.Whole

/-
  Numbers in cells, read back.

  In each layout a decimal is written so that it denotes what
  is laid out.  The shortest decimal of a float is read as
  this float.  So a number is read back from its text, up to
  the sign of zero, which is not written.

  Key definitions include:
    * `Spreadsheet.Number.Layout.writtenExponent`
    * `Spreadsheet.Number.Parts.written`

  Main results:
    * `Spreadsheet.Number.exists_written_writeDecimal`
    * `Spreadsheet.Number.exists_written_toText`
    * `Spreadsheet.Number.numberOfText_toText`
    * `Spreadsheet.Number.toText_reads_back`
-/

------------------------------------------------------------
-- Layouts As Written Decimals
------------------------------------------------------------

namespace Spreadsheet

namespace Number

/- The exponent that a layout writes. -/
def Layout.writtenExponent
    (layout : Layout)
    (power : Int) :
    WrittenExponent :=
  let digits := Text.decimal power.natAbs
  {
    mark := 'e'
    sign := if power < 0 then .minus else .plus
    digits :=
      List.replicate (layout.exponentWidth - digits.length)
        '0' ++ digits
  }

/- The parts of a layout as a decimal behind a sign. -/
def Parts.written
    (parts : Parts)
    (layout : Layout)
    (sign : WrittenSign) :
    WrittenDecimal :=
  {
    sign := sign
    whole := parts.whole
    point := !parts.places.isEmpty
    places := parts.places
    exponent? := parts.power?.map layout.writtenExponent
  }

theorem Layout.text_writtenExponent
    (layout : Layout)
    (power : Int) :
    (layout.writtenExponent power).text =
      layout.writeExponent power := by
  unfold WrittenExponent.text Layout.writtenExponent
    Layout.writeExponent
  simp only
  split_ifs
  · rfl
  · rfl

theorem Layout.value_writtenExponent
    (layout : Layout)
    (power : Int) :
    (layout.writtenExponent power).value = power := by
  unfold WrittenExponent.value Layout.writtenExponent
  simp only
  rw [Text.decimalValue_zeros_append _ fun _ =>
    Text.isDigit_of_mem_decimal, Text.decimalValue_decimal]
  split_ifs with hNegative
  · change -(power.natAbs : Int) = power
    omega
  · change (power.natAbs : Int) = power
    omega

theorem Layout.isValid_writtenExponent
    (layout : Layout)
    (power : Int) :
    (layout.writtenExponent power).IsValid Char.isDigit where
  mark := .inl rfl
  isDigit := by
    unfold Layout.writtenExponent
    rw [List.forall_mem_append]
    exact ⟨fun _ => Text.isDigit_of_mem_zeros,
      fun _ => Text.isDigit_of_mem_decimal⟩
  ne_nil :=
    List.append_ne_nil_of_right_ne_nil _
      (Text.decimal_ne_nil power.natAbs)

variable {layout : Layout}
variable {d : Decimal}
variable {body : List Char}
variable {parts : Parts}

theorem Parts.unsigned_written
    (parts : Parts)
    (layout : Layout)
    (sign : WrittenSign) :
    (parts.written layout sign).unsigned =
      parts.text layout := by
  rcases parts with ⟨whole, places, power?⟩
  have hPower :
      (power?.map layout.writtenExponent).elim []
          WrittenExponent.text =
        power?.elim [] layout.writeExponent := by
    cases power? with
    | none => rfl
    | some power => exact layout.text_writtenExponent power
  unfold WrittenDecimal.unsigned Parts.written Parts.text
  simp only [hPower]
  rw [List.append_assoc]
  cases places with
  | nil => rfl
  | cons c places => rfl

theorem Parts.magnitude_written
    (parts : Parts)
    (layout : Layout)
    (sign : WrittenSign) :
    (parts.written layout sign).magnitude =
      parts.decimal := by
  rcases parts with ⟨whole, places, power?⟩
  unfold WrittenDecimal.magnitude Parts.written Parts.decimal
  simp only
  cases power? with
  | none => rfl
  | some power =>
      rw [Option.map_some, Option.elim_some,
        Option.getD_some, layout.value_writtenExponent]

/- What is laid out is a valid decimal. -/
theorem LaidOut.isValid_written
    (hLaidOut : LaidOut layout d body parts)
    (sign : WrittenSign) :
    (parts.written layout sign).IsValid Char.isDigit where
  whole := hLaidOut.isWhole.isDigit
  places := hLaidOut.isDigit
  point hNone := by
    rw [Parts.written, Bool.not_eq_false',
      List.isEmpty_iff] at hNone
    exact hNone
  ne_nil := .inl hLaidOut.isWhole.ne_nil
  exponent := by
    intro exponent hSome
    rw [Parts.written, Option.mem_def, Option.map_eq_some_iff]
      at hSome
    rcases hSome with ⟨power, -, rfl⟩
    exact layout.isValid_writtenExponent power

/-
  In a cell each decimal is written so that it denotes this
  decimal, whichever of the layouts it is in.
-/
theorem exists_written_writeDecimal
    (hDigits : 0 < d.digits)
    (sign : WrittenSign) :
    ∃ written : WrittenDecimal,
      written.IsValid Char.isDigit ∧ written.sign = sign ∧
        written.unsigned = Layout.cell.writeDecimal d ∧
        written.magnitude.value = d.value := by
  have hMark :
      Layout.cell.wholeMark =
        Parts.pointed (List.replicate 0 '0') := rfl
  rcases laidOut_writeDecimal hMark hDigits with
    ⟨parts, hLaidOut⟩
  refine ⟨parts.written .cell sign,
    hLaidOut.isValid_written sign, rfl, ?_, ?_⟩
  · rw [Parts.unsigned_written, ← hLaidOut.text_eq]
  · rw [Parts.magnitude_written, hLaidOut.value_eq]

end Number

end Spreadsheet

------------------------------------------------------------
-- Texts Read Back
------------------------------------------------------------

namespace Spreadsheet

namespace Number

/- A sign in front of a magnitude, as it is written. -/
theorem withSign_eq
    (negative : Bool)
    (magnitude : List Char) :
    Layout.withSign negative magnitude =
      (WrittenSign.ofBool negative).text ++ magnitude := by
  cases negative with
  | false => rfl
  | true => rfl

variable {x : Float}

/-
  A finite float is written as a decimal that denotes its
  shortest one, with its sign unless it is zero.
-/
theorem exists_written_toText
    {negative : Bool}
    {mantissa : Nat}
    {exponent : Int}
    (hFinite :
      Binary.ofFloat x = .finite negative mantissa exponent) :
    ∃ written : WrittenDecimal,
      written.IsValid Char.isDigit ∧
        toText x = written.text ∧
        written.sign.isMinus = (negative && mantissa != 0) ∧
        written.magnitude.value =
          (shortestDecimal mantissa exponent).value := by
  have hBinary :=
    (Binary.ofBits_finite x.toBits.toNat_lt hFinite).2.1
  have hMark :
      Layout.cell.wholeMark =
        Parts.pointed (List.replicate 0 '0') := rfl
  rcases laidOut_write hMark hBinary negative with
    ⟨body, parts, hLaidOut, hText⟩
  have hUnsigned : Layout.cell.signedZero = false := rfl
  rw [hUnsigned, Bool.or_false] at hText
  refine
    ⟨parts.written .cell
      (.ofBool (negative && mantissa != 0)),
      hLaidOut.isValid_written _, ?_,
      WrittenSign.isMinus_ofBool _, ?_⟩
  · rw [toText_eq_write, hFinite, hText, withSign_eq,
      WrittenDecimal.text, Parts.unsigned_written,
      hLaidOut.text_eq]
    rfl
  · rw [Parts.magnitude_written, hLaidOut.value_eq]

/- A decimal without a value is read as zero. -/
theorem ofDecimal_of_value_zero
    {d : Decimal}
    (hNone : d.value = 0) :
    ofDecimal false d.digits d.exponent = 0 := by
  have hPower : (0 : ℚ) < 10 ^ d.exponent := by positivity
  have hDigits : d.digits = 0 := by
    rw [Decimal.value, mul_eq_zero_iff_right hPower.ne']
      at hNone
    exact_mod_cast hNone
  rw [hDigits, ofDecimal]
  simp only [true_or, if_true]
  apply Float.toBits_inj.mp
  decide +kernel

/- A finite float is read back, up to the sign of zero. -/
theorem numberOfText_finite
    {negative : Bool}
    {mantissa : Nat}
    {exponent : Int}
    (hFinite :
      Binary.ofFloat x = .finite negative mantissa exponent) :
    ∃ y,
      Value.numberOfText (String.ofList (toText x)) =
          .ok (some y) ∧
        (y == x) = true := by
  rcases exists_written_toText hFinite with
    ⟨written, hValid, hText, hSign, hValue⟩
  have hLiteral :
      Literal.IsValid Text.isDigit (.decimal written) :=
    .decimal (hValid.mono fun _ _ => isDigit_of_ascii)
  have hDenotes :
      Literal.Denotes written.float (.decimal written) :=
    rounds_ofDecimal _ _
  have hRead := Literal.numberOfText_eq hLiteral hDenotes id
  rw [Literal.text, ← hText] at hRead
  rw [hRead]
  refine ⟨_, rfl, ?_⟩
  rw [WrittenDecimal.float, hSign]
  rcases Nat.eq_zero_or_pos mantissa with rfl | hPositive
  · have hNone : (shortestDecimal 0 exponent).value = 0 := by
      rw [shortestDecimal, if_pos rfl, Decimal.value,
        Nat.cast_zero, zero_mul]
    have hZero :
        Binary.ofFloat 0 = .finite false 0 (-1074) := by
      decide +kernel
    rw [bne_self_eq_false, Bool.and_false,
      ofDecimal_of_value_zero (hValue.trans hNone)]
    exact beq_of_zero hZero hFinite
  · have hNumber : isNaN x = false := by
      rw [isNaN, hFinite]
      rfl
    rw [bne_iff_ne.mpr hPositive.ne', Bool.and_true,
      ofDecimal_recovers hFinite hValue]
    exact beq_self hNumber

/- So is an infinite one. -/
theorem numberOfText_infinite
    {negative : Bool}
    (hInfinite : Binary.ofFloat x = .infinite negative) :
    Value.numberOfText (String.ofList (toText x)) =
      .ok (some x) := by
  have hText :
      toText x =
        Literal.text (.infinity (.ofBool negative)) := by
    rw [toText_eq_write, hInfinite]
    cases negative with
    | false => rfl
    | true => rfl
  have hDenotes :
      Literal.Denotes x (.infinity (.ofBool negative)) := by
    rw [Literal.Denotes, WrittenSign.isMinus_ofBool]
    exact hInfinite
  rw [hText]
  exact Literal.numberOfText_eq (.infinity _) hDenotes id

/- The text of the undefined float is no number. -/
theorem numberOfText_nan
    (hNaN : isNaN x = true) :
    Value.numberOfText (String.ofList (toText x)) =
      .ok none := by
  rw [isNaN, beq_iff_eq] at hNaN
  rw [toText_eq_write, hNaN]
  rfl

/- Each number is read back from its text. -/
theorem numberOfText_toText
    (hNumber : isNaN x = false) :
    ∃ y,
      Value.numberOfText (String.ofList (toText x)) =
          .ok (some y) ∧
        (y == x) = true := by
  cases hReading : Binary.ofFloat x with
  | nan =>
      rw [isNaN, hReading] at hNumber
      cases hNumber
  | infinite negative =>
      exact ⟨x, numberOfText_infinite hReading,
        beq_self hNumber⟩
  | finite negative mantissa exponent =>
      exact numberOfText_finite hReading

end Number

end Spreadsheet

------------------------------------------------------------
-- Numbers And Their Texts
------------------------------------------------------------

namespace Spreadsheet

namespace Number

/- Numbers with one text are equal. -/
theorem beq_of_toText_eq
    {x y : Float}
    (hSame : toText x = toText y)
    (hNumber : isNaN x = false) :
    (x == y) = true ∧ isNaN y = false := by
  rcases numberOfText_toText hNumber with ⟨z, hX, hEqual⟩
  have hOther : isNaN y = false := by
    by_contra hNaN
    rw [Bool.not_eq_false] at hNaN
    rw [hSame, numberOfText_nan hNaN] at hX
    cases hX
  rcases numberOfText_toText hOther with ⟨z', hY, hEqual'⟩
  rw [hSame, hY] at hX
  cases hX
  exact ⟨BEq.trans (BEq.symm hEqual) hEqual', hOther⟩

/-
  The text of a number is read as an equal number, and only
  equal numbers have one text.  Each decimal is laid out as
  one that denotes it, and whole numbers that are written as
  they are have the text of this layout.
-/
theorem toText_reads_back :
    (∀ x, isNaN x = false →
      ∃ s y,
        Call.answer ⟨.text, [.scalar (.number x)]⟩ =
            .settled (.ok (.text s)) ∧
          Value.numberOfText s = .ok (some y) ∧
          Call.answer ⟨.value, [.scalar (.text s)]⟩ =
            .settled (.ok (.number y)) ∧
          (y == x) = true) ∧
    (∀ x y, toText x = toText y →
      (x == y) = true ∨
        isNaN x = true ∧ isNaN y = true) ∧
    (∀ negative d, 0 < d.digits →
      ∃ written : WrittenDecimal,
        written.IsValid Char.isDigit ∧
          written.text =
            Layout.withSign negative
              (Layout.cell.writeDecimal d) ∧
          decimal? written.text = some written.float ∧
          written.value =
            if negative then -d.value else d.value) ∧
    (∀ x n, (Binary.ofFloat x).exactWhole? = some n →
      toText x = Text.integer n ∧
        Text.integer n =
          Layout.cell.write (Binary.ofFloat x)) := by
  refine ⟨?_, ?_, ?_, ?_⟩
  · intro x hNumber
    rcases numberOfText_toText hNumber with
      ⟨y, hRead, hEqual⟩
    refine ⟨String.ofList (toText x), y, rfl, hRead, ?_,
      hEqual⟩
    have hValue :
        Value.toNumber (.text (String.ofList (toText x))) =
          .ok y := by
      rw [Value.toNumber, Value.toNumber?, hRead]
      rfl
    exact congrArg
      (fun result =>
        Answer.settled (result.map Value.number)) hValue
  · intro x y hSame
    by_cases hNumber : isNaN x = false
    · exact .inl (beq_of_toText_eq hSame hNumber).1
    · rw [Bool.not_eq_false] at hNumber
      refine .inr ⟨hNumber, ?_⟩
      by_contra hOther
      rw [Bool.not_eq_true] at hOther
      have hBoth := (beq_of_toText_eq hSame.symm hOther).2
      rw [hNumber] at hBoth
      cases hBoth
  · intro negative d hDigits
    rcases exists_written_writeDecimal hDigits
        (.ofBool negative) with
      ⟨written, hValid, hSign, hText, hValue⟩
    refine ⟨written, hValid, ?_, decimal?_written
      (hValid.mono fun _ _ => isDigit_of_ascii), ?_⟩
    · rw [WrittenDecimal.text, hSign, hText, withSign_eq]
    · rw [WrittenDecimal.value, hSign, hValue,
        WrittenSign.isMinus_ofBool]
  · intro x n hExact
    have hText : toText x = Text.integer n := by
      unfold toText
      simp only [hExact]
    exact ⟨hText, hText.symm.trans (toText_eq_write x)⟩

/- A number below one, zero and a decimal with an exponent. -/
theorem toText_reads_back_small :
    (isNaN 1.5e-7 = false ∧
      ∃ s y,
        Call.answer ⟨.text, [.scalar (.number 1.5e-7)]⟩ =
            .settled (.ok (.text s)) ∧
          Value.numberOfText s = .ok (some y) ∧
          Call.answer ⟨.value, [.scalar (.text s)]⟩ =
            .settled (.ok (.number y)) ∧
          (y == 1.5e-7) = true) ∧
    (toText 0.0 = toText (-0.0) ∧
      ((0.0 == (-0.0 : Float)) = true ∨
        isNaN 0.0 = true ∧ isNaN (-0.0) = true)) ∧
    (0 < Decimal.digits ⟨15, -8⟩ ∧
      ∃ written : WrittenDecimal,
        written.IsValid Char.isDigit ∧
          written.text =
            Layout.withSign true
              (Layout.cell.writeDecimal ⟨15, -8⟩) ∧
          decimal? written.text = some written.float ∧
          written.value = -Decimal.value ⟨15, -8⟩) ∧
    ((Binary.ofFloat 4096.0).exactWhole? = some 4096 ∧
      toText 4096.0 = Text.integer 4096 ∧
        Text.integer 4096 =
          Layout.cell.write (Binary.ofFloat 4096.0)) := by
  have hNumber : isNaN 1.5e-7 = false := by decide +kernel
  have hZero : toText 0.0 = toText (-0.0) := by
    decide +kernel
  have hDigits : 0 < Decimal.digits ⟨15, -8⟩ := by decide
  have hExact :
      (Binary.ofFloat 4096.0).exactWhole? = some 4096 := by
    decide +kernel
  rcases toText_reads_back with
    ⟨hRead, hSame, hWritten, hWhole⟩
  exact
    ⟨⟨hNumber, hRead 1.5e-7 hNumber⟩,
      ⟨hZero, hSame 0.0 (-0.0) hZero⟩,
      ⟨hDigits, hWritten true ⟨15, -8⟩ hDigits⟩,
      ⟨hExact, hWhole 4096.0 4096 hExact⟩⟩

end Number

end Spreadsheet
