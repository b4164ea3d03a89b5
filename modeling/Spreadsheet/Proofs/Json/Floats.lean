import Spreadsheet.Json.Written
import Spreadsheet.Proofs.Json.Numbers
import Spreadsheet.Proofs.Number.Parts
import Spreadsheet.Proofs.Number.Recovered

/-
  Floats read back.

  A finite float is written as in a message, with a point or
  an exponent, and its parts are read as they were written.
  The words for the others are read as these.  So every float
  is read back as itself.

  Main results:
    * `Spreadsheet.Json.unsigned_parts`
    * `Spreadsheet.Json.scalar_float`
-/

------------------------------------------------------------
-- Parts Of Floats
------------------------------------------------------------

namespace Spreadsheet

namespace Json

open Number (Layout Parts LaidOut)

variable {layout : Layout}
variable {rest : List Char}

/- An exponent is read as it is laid out. -/
theorem exponent_writeExponent
    (layout : Layout)
    (power : Int)
    (hEnds : Ends rest) :
    exponent (layout.writeExponent power ++ rest) =
      (some power, rest) := by
  have hDecimal :
      ∀ c ∈ Text.decimal power.natAbs, c.isDigit = true :=
    fun _ => Text.isDigit_of_mem_decimal
  let digits :=
    List.replicate
        (layout.exponentWidth -
          (Text.decimal power.natAbs).length) '0' ++
      Text.decimal power.natAbs
  have hDigits : ∀ c ∈ digits, c.isDigit = true := by
    rw [List.forall_mem_append]
    exact ⟨fun _ => Text.isDigit_of_mem_zeros, hDecimal⟩
  have hSome : digits ≠ [] :=
    List.append_ne_nil_of_right_ne_nil _
      (Text.decimal_ne_nil power.natAbs)
  have hWritten :
      layout.writeExponent power =
        'e' :: (if decide (power < 0) then '-' else '+') ::
          digits := by
    rw [Layout.writeExponent]
    simp only [decide_eq_true_eq]
    rfl
  rw [hWritten, exponent_append hDigits hSome
    hEnds.not_digit, Text.decimalValue_zeros_append _ hDecimal,
    Text.decimalValue_decimal]
  simp only [decide_eq_true_eq]
  split_ifs with hNegative
  · congr 2
    omega
  · congr 2
    omega

/- The exponent of parts is read, also if there is none. -/
theorem exponent_parts
    (layout : Layout)
    (power? : Option Int)
    (hEnds : Ends rest) :
    exponent (power?.elim [] layout.writeExponent ++ rest) =
      (power?, rest) := by
  cases power? with
  | none => exact exponent_of_ends hEnds
  | some power =>
      exact exponent_writeExponent layout power hEnds

/- Behind the places there is neither a digit nor a point. -/
theorem head_exponent_parts
    (layout : Layout)
    (power? : Option Int)
    (hEnds : Ends rest) :
    ∀ c ∈ (power?.elim [] layout.writeExponent ++ rest).head?,
      c.isDigit = false ∧ c ≠ '.' := by
  cases power? with
  | none =>
      intro c hHead
      rcases hEnds c hHead with rfl | rfl | rfl
      · decide
      · decide
      · decide
  | some power =>
      rintro _ ⟨rfl⟩
      decide

/- Places are read behind their point, also if there are none. -/
theorem fraction_pointed
    {places tail : List Char}
    (hPlaces : ∀ c ∈ places, c.isDigit = true)
    (hTail :
      ∀ c ∈ tail.head?, c.isDigit = false ∧ c ≠ '.') :
    fraction (Parts.pointed places ++ tail) =
      (places, tail) := by
  cases places with
  | nil =>
      exact fraction_of_no_point fun c hHead =>
        (hTail c hHead).2
  | cons c places =>
      exact fraction_append hPlaces (List.cons_ne_nil c places)
        fun c hHead => (hTail c hHead).1

theorem head_pointed
    {places tail : List Char}
    (hTail :
      ∀ c ∈ tail.head?, c.isDigit = false ∧ c ≠ '.') :
    ∀ c ∈ (Parts.pointed places ++ tail).head?,
      c.isDigit = false := by
  cases places with
  | nil => exact fun c hHead => (hTail c hHead).1
  | cons c places =>
      rintro _ ⟨rfl⟩
      decide

/- Parts with places or an exponent are read as a float. -/
theorem unsigned_parts
    {d : Number.Decimal}
    {text : List Char}
    {parts : Parts}
    (hLaidOut : LaidOut layout d text parts)
    (hMarked : layout.wholeMark ≠ [])
    (negative : Bool)
    (hEnds : Ends rest) :
    unsigned negative (text ++ rest) =
      .ok (.float (Number.ofDecimal negative
        parts.decimal.digits parts.decimal.exponent), rest) := by
  have hTail := head_exponent_parts layout parts.power? hEnds
  have hEmpty : parts.whole.isEmpty = false :=
    List.isEmpty_eq_false_iff.mpr hLaidOut.isWhole.ne_nil
  have hFloat :
      (parts.places.isEmpty && parts.power?.isNone) = false := by
    rcases hLaidOut.marked hMarked with hPlaces | hPower
    · rw [List.isEmpty_eq_false_iff.mpr hPlaces]
      rfl
    · rw [Option.isNone_eq_false_iff.mpr hPower,
        Bool.and_false]
  rw [hLaidOut.text_eq, Parts.text, List.append_assoc,
    List.append_assoc, unsigned,
    wholePart_append hLaidOut.isWhole (head_pointed hTail)]
  simp only [fraction_pointed hLaidOut.isDigit hTail,
    exponent_parts layout parts.power? hEnds, hEmpty, hFloat,
    Bool.false_eq_true, if_false]
  rfl

end Json

end Spreadsheet

------------------------------------------------------------
-- Floats
------------------------------------------------------------

namespace Spreadsheet

namespace Json

open Number (Layout Parts LaidOut Binary)
open Number.Layout (withSign)
open Text (Visible)

/- A finite float is laid out in parts behind its sign. -/
theorem float_of_finite
    {x : Float}
    {negative : Bool}
    {mantissa : Nat}
    {exponent : Int}
    (hFinite :
      Binary.ofFloat x = .finite negative mantissa exponent) :
    ∃ text parts,
      LaidOut .message
          (Number.shortestDecimal mantissa exponent) text
          parts ∧
        float x = withSign negative text := by
  have hBinary :=
    (Binary.ofBits_finite x.toBits.toNat_lt hFinite).2.1
  have hMark :
      Layout.message.wholeMark =
        Parts.pointed (List.replicate 1 '0') := rfl
  rcases Number.laidOut_write hMark hBinary negative with
    ⟨text, parts, hLaidOut, hText⟩
  refine ⟨text, parts, hLaidOut, ?_⟩
  have hSigned : Layout.message.signedZero = true := rfl
  rw [hSigned, Bool.or_true, Bool.and_true] at hText
  rw [← hFinite] at hText
  rw [float, hFinite]
  exact hText

/- A finite float is read back, up to what follows it. -/
theorem scalar_of_finite
    {x : Float}
    {negative : Bool}
    {mantissa : Nat}
    {exponent : Int}
    (hFinite :
      Binary.ofFloat x = .finite negative mantissa exponent)
    {rest : List Char}
    (hEnds : Ends rest) :
    scalar (float x ++ rest) = .ok (.float x, rest) := by
  rcases float_of_finite hFinite with
    ⟨text, parts, hLaidOut, hText⟩
  have hMarked : Layout.message.wholeMark ≠ [] := by decide
  have hUnsigned :=
    unsigned_parts hLaidOut hMarked negative hEnds
  rw [Number.ofDecimal_recovers hFinite hLaidOut.value_eq]
    at hUnsigned
  rw [hLaidOut.text_eq, Parts.text, List.append_assoc,
    List.append_assoc] at hUnsigned
  rw [hText, hLaidOut.text_eq, withSign_append, Parts.text,
    List.append_assoc, List.append_assoc]
  generalize Parts.pointed parts.places ++
    (parts.power?.elim [] Layout.message.writeExponent ++
      rest) = tail at *
  rcases head_withSign hLaidOut.isWhole negative tail with
    ⟨c, others, hHead, hBegins⟩
  rw [hHead, scalar_of_head hBegins, ← hHead,
    number_withSign hLaidOut.isWhole]
  exact hUnsigned

/- The words for floats that are not finite are read back. -/
theorem scalar_nan
    (rest : List Char) :
    scalar ("NaN".toList ++ rest) =
      .ok (.float (0.0 / 0.0), rest) :=
  rfl

theorem scalar_infinite
    (negative : Bool)
    (rest : List Char) :
    scalar
        ((if negative then "-Infinity".toList
          else "Infinity".toList) ++ rest) =
      .ok (infinite negative, rest) := by
  cases negative with
  | false => rfl
  | true => rfl

/- Each float is read back, up to what follows it. -/
theorem scalar_float
    (x : Float)
    {rest : List Char}
    (hEnds : Ends rest) :
    scalar (float x ++ rest) = .ok (.float x, rest) := by
  cases hReading : Binary.ofFloat x with
  | nan =>
      rw [float, hReading, Number.eq_of_nan hReading]
      exact scalar_nan rest
  | infinite negative =>
      rw [float, hReading]
      refine (scalar_infinite negative rest).trans ?_
      rw [infinite, ← Number.eq_of_infinite hReading]
  | finite negative mantissa exponent =>
      exact scalar_of_finite hReading hEnds

/- A float begins like a number. -/
theorem head_float
    (x : Float) :
    ∃ c rest, float x = c :: rest ∧ BeginsNumber c := by
  cases hReading : Binary.ofFloat x with
  | nan =>
      refine ⟨'N', ['a', 'N'], ?_, .inr (.inl rfl)⟩
      rw [float, hReading]
      rfl
  | infinite negative =>
      cases negative with
      | false =>
          refine ⟨'I', "nfinity".toList, ?_,
            .inr (.inr rfl)⟩
          rw [float, hReading]
          rfl
      | true =>
          refine ⟨'-', "Infinity".toList, ?_,
            .inl (.inl rfl)⟩
          rw [float, hReading]
          rfl
  | finite negative mantissa exponent =>
      rcases float_of_finite hReading with
        ⟨text, parts, hLaidOut, hText⟩
      rw [hLaidOut.text_eq, Parts.text, List.append_assoc]
        at hText
      rcases head_withSign hLaidOut.isWhole negative
          (Parts.pointed parts.places ++
            parts.power?.elim [] Layout.message.writeExponent)
        with ⟨c, others, hHead, hBegins⟩
      exact ⟨c, others, hText.trans hHead, .inl hBegins⟩

/- An exponent has visible characters alone. -/
theorem visible_of_mem_writeExponent
    {layout : Layout}
    {power : Int}
    {c : Char}
    (hMember : c ∈ layout.writeExponent power) :
    Visible c := by
  rw [Layout.writeExponent, List.mem_cons, List.mem_cons,
    List.mem_append] at hMember
  rcases hMember with rfl | hSign | hZero | hDigit
  · decide
  · split_ifs at hSign
    · subst hSign
      decide
    · subst hSign
      decide
  · exact visible_of_isDigit (Text.isDigit_of_mem_zeros hZero)
  · exact visible_of_isDigit
      (Text.isDigit_of_mem_decimal hDigit)

/- The parts of a number have visible characters alone. -/
theorem visible_of_mem_parts
    {layout : Layout}
    {d : Number.Decimal}
    {text : List Char}
    {parts : Parts}
    (hLaidOut : LaidOut layout d text parts)
    {c : Char}
    (hMember : c ∈ text) :
    Visible c := by
  rw [hLaidOut.text_eq, Parts.text, List.mem_append,
    List.mem_append] at hMember
  rcases hMember with (hWhole | hPlace) | hPower
  · exact visible_of_isDigit (hLaidOut.isWhole.isDigit c hWhole)
  · cases hPlaces : parts.places with
    | nil =>
        rw [hPlaces] at hPlace
        cases hPlace
    | cons first others =>
        rw [hPlaces] at hPlace
        rcases List.mem_cons.mp hPlace with rfl | hDigit
        · decide
        · exact visible_of_isDigit
            (hLaidOut.isDigit c (hPlaces ▸ hDigit))
  · cases hPower? : parts.power? with
    | none =>
        rw [hPower?] at hPower
        cases hPower
    | some power =>
        rw [hPower?] at hPower
        exact visible_of_mem_writeExponent hPower

/- A float has visible characters alone. -/
theorem visible_of_mem_float
    {x : Float}
    {c : Char}
    (hMember : c ∈ float x) :
    Visible c := by
  cases hReading : Binary.ofFloat x with
  | nan =>
      rw [float, hReading] at hMember
      have hWord : ∀ c ∈ "NaN".toList, Visible c := by
        simp [Visible]
      exact hWord c hMember
  | infinite negative =>
      rw [float, hReading] at hMember
      have hWord :
          ∀ c ∈ "-Infinity".toList, Visible c := by
        simp [Visible]
      cases negative with
      | false =>
          exact hWord c (List.mem_cons_of_mem '-' hMember)
      | true => exact hWord c hMember
  | finite negative mantissa exponent =>
      rcases float_of_finite hReading with
        ⟨text, parts, hLaidOut, hText⟩
      rw [hText] at hMember
      cases negative with
      | false => exact visible_of_mem_parts hLaidOut hMember
      | true =>
          rcases List.mem_cons.mp hMember with rfl | hMember
          · decide
          · exact visible_of_mem_parts hLaidOut hMember

end Json

end Spreadsheet
