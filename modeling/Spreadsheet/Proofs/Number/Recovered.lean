import Mathlib
import Spreadsheet.Proofs.Number.Shortest

/-
  Floats recovered from decimals.

  The bits of a float are put together from the parts of its
  exact reading, as the nearest float of a quotient is.  So a
  decimal that is near a float is read as this float, and its
  shortest decimal is near.

  Main results:
    * `Spreadsheet.Number.Binary.ofBits_finite`
    * `Spreadsheet.Number.ofDecimal_recovers`
    * `Spreadsheet.Number.eq_of_nan`
    * `Spreadsheet.Number.eq_of_infinite`
-/

------------------------------------------------------------
-- Bits
------------------------------------------------------------

namespace Spreadsheet

namespace Number

/- The bit of the sign, read and put back. -/
theorem signBit_eq
    {bits : Nat}
    (hBits : bits < 2 ^ 64) :
    (if (bits / 2 ^ 63 % 2 == 1) = true then 2 ^ 63 else 0) =
      bits / 2 ^ 63 * 2 ^ 63 := by
  simp only [beq_iff_eq]
  split
  · omega
  · omega

/- What a finite reading says of the bits. -/
theorem Binary.ofBits_finite
    {bits : Nat}
    (hBits : bits < 2 ^ 64)
    {negative : Bool}
    {mantissa : Nat}
    {exponent : Int}
    (hFinite :
      Binary.ofBits bits =
        .finite negative mantissa exponent) :
    bits =
        (if negative then 2 ^ 63 else 0) +
          ((exponent - leastExponent).toNat * 2 ^ 52 +
            mantissa) ∧
      (0 < mantissa → IsBinary mantissa exponent) ∧
      (mantissa = 0 → exponent = leastExponent) := by
  have hLeast : leastExponent = -1074 := rfl
  unfold Binary.ofBits at hFinite
  simp only [Nat.pow_eq] at hFinite
  split_ifs at hFinite with hTop hZero hField
  · cases hFinite
    rw [signBit_eq hBits]
    refine ⟨by omega, fun hPositive => ?_, fun _ => rfl⟩
    exact ⟨hPositive, by omega, le_refl _, by omega, .inr rfl⟩
  · cases hFinite
    rw [signBit_eq hBits]
    refine ⟨by omega, fun hPositive => ?_, by omega⟩
    exact ⟨hPositive, by omega, by omega, by omega,
      .inl (Nat.le_add_right _ _)⟩

end Number

end Spreadsheet

------------------------------------------------------------
-- Floats That Are Not Finite
------------------------------------------------------------

namespace Spreadsheet

namespace Number

/- What an infinite reading says of the bits. -/
theorem Binary.ofBits_infinite
    {bits : Nat}
    (hBits : bits < 2 ^ 64)
    {negative : Bool}
    (hInfinite : Binary.ofBits bits = .infinite negative) :
    bits =
      (if negative then 2 ^ 63 else 0) + infinityBits := by
  have hInfinity : infinityBits = 2047 * 2 ^ 52 := rfl
  unfold Binary.ofBits at hInfinite
  simp only [Nat.pow_eq] at hInfinite
  split_ifs at hInfinite with hTop hZero
  cases hInfinite
  rw [signBit_eq hBits]
  omega

open Float.Model.UnpackedFloat in
/- The field of the exponent, as the logic of floats has it. -/
theorem toNat_unpackExponent
    (bits : UInt64) :
    (@unpackExponent .binary64 bits.toBitVec).toNat =
      bits.toNat / 2 ^ 52 % 2 ^ 11 := by
  simp [unpackExponent, Nat.shiftRight_eq_div_pow]

open Float.Model.UnpackedFloat in
/- The fraction, as the logic of floats has it. -/
theorem toNat_unpackMantissa
    (bits : UInt64) :
    (@unpackMantissa .binary64 bits.toBitVec).toNat =
      bits.toNat % 2 ^ 52 := by
  simp [unpackMantissa]

open Float.Model.UnpackedFloat in
/- Of all undefined bits only these are the bits of a float. -/
theorem toBits_of_nan
    {x : Float}
    (hNaN : Binary.ofFloat x = .nan) :
    x.toBits = 0x7FF8000000000000 := by
  unfold Binary.ofFloat Binary.ofBits at hNaN
  simp only [Nat.pow_eq] at hNaN
  split_ifs at hNaN with hTop hZero
  have hExponent :
      @unpackExponent .binary64 x.toBits.toBitVec = -1 := by
    apply BitVec.eq_of_toNat_eq
    rw [toNat_unpackExponent, hTop]
    rfl
  have hMantissa :
      @unpackMantissa .binary64 x.toBits.toBitVec ≠ 0 := by
    intro hNone
    rw [← toNat_unpackMantissa, hNone] at hZero
    exact hZero rfl
  have hPacked :=
    x.toModel.valid.eq_packedNaN hExponent hMantissa
  exact UInt64.toBitVec_inj.mp (hPacked.trans (by decide))

/- There is one undefined float. -/
theorem eq_of_nan
    {x : Float}
    (hNaN : Binary.ofFloat x = .nan) :
    x = 0.0 / 0.0 := by
  apply Float.toBits_inj.mp
  rw [toBits_of_nan hNaN]
  decide +kernel

/- There is one infinite float of each sign. -/
theorem eq_of_infinite
    {x : Float}
    {negative : Bool}
    (hInfinite : Binary.ofFloat x = .infinite negative) :
    x = if negative then -1.0 / 0.0 else 1.0 / 0.0 := by
  apply Float.toBits_inj.mp
  apply UInt64.toNat_inj.mp
  rw [Binary.ofBits_infinite x.toBits.toNat_lt hInfinite]
  cases negative with
  | false => decide +kernel
  | true => decide +kernel

end Number

end Spreadsheet

------------------------------------------------------------
-- Nearest Floats
------------------------------------------------------------

namespace Spreadsheet

namespace Number

variable {x : Float}
variable {negative : Bool}
variable {mantissa : Nat}
variable {exponent : Int}

/- A float is packed from what its bits are made of. -/
theorem ofBits_eq
    {bits : Nat}
    (hBits : x.toBits.toNat = bits) :
    Float.ofBits bits.toUInt64 = x := by
  rw [← hBits, Nat.toUInt64, UInt64.ofNat_toNat,
    Float.ofBits_toBits]

/- What is near a float is rounded to it. -/
theorem nearest_of_near
    (hFinite :
      Binary.ofFloat x = .finite negative mantissa exponent)
    (hPositive : 0 < mantissa)
    {num den : Nat}
    (hNear : Near mantissa exponent (num / den))
    (hNum : 0 < num)
    (hDen : 0 < den) :
    nearest negative num den = x := by
  rcases Binary.ofBits_finite x.toBits.toNat_lt hFinite with
    ⟨hBits, hBinary, -⟩
  have hNearest :=
    nearestBits_of_near (hBinary hPositive) hNear hNum hDen
  unfold nearest
  simp only [Nat.pow_eq, hNum.ne', if_false, hNearest]
  exact ofBits_eq hBits

/- Zero is rounded to the zero of its sign. -/
theorem nearest_zero
    (hFinite : Binary.ofFloat x = .finite negative 0 exponent) :
    nearest negative 0 1 = x := by
  rcases Binary.ofBits_finite x.toBits.toNat_lt hFinite with
    ⟨hBits, -, hLeast⟩
  rw [hLeast rfl, sub_self, Int.toNat_zero, zero_mul,
    zero_add] at hBits
  exact ofBits_eq hBits

end Number

end Spreadsheet

------------------------------------------------------------
-- Decimals
------------------------------------------------------------

namespace Spreadsheet

namespace Number

variable {x : Float}
variable {negative : Bool}
variable {mantissa : Nat}
variable {exponent : Int}

/- What is near a float is within the range of floats. -/
theorem Near.range
    {q : ℚ}
    (hNear : Near mantissa exponent q)
    (hBinary : IsBinary mantissa exponent) :
    (10 : ℚ) ^ (-324 : Int) < q ∧ q < 10 ^ (309 : Int) := by
  have hFirst : 2 * 2 ^ 1074 < 10 ^ 324 := by decide +kernel
  have hLast : 2 ^ 53 * 2 ^ 971 < 10 ^ 309 := by
    decide +kernel
  have hReach := reach_le mantissa exponent
  have hPower : (0 : ℚ) < 2 ^ exponent := by positivity
  have hLeast : (2 : ℚ) ^ (-1074 : Int) ≤ 2 ^ exponent :=
    zpow_le_zpow_right₀ one_le_two hBinary.least
  have hGreatest : (2 : ℚ) ^ exponent ≤ 2 ^ (971 : Int) :=
    zpow_le_zpow_right₀ one_le_two hBinary.greatest
  have hPositive : (1 : ℚ) ≤ mantissa := by
    exact_mod_cast hBinary.positive
  have hBounded : (mantissa : ℚ) + 1 ≤ 2 ^ 53 := by
    exact_mod_cast hBinary.bounded
  constructor
  · calc
      (10 : ℚ) ^ (-324 : Int) < (2 * 2 ^ 1074)⁻¹ := by
        rw [zpow_neg, zpow_ofNat]
        apply inv_strictAnti₀ (by positivity)
        exact_mod_cast hFirst
      _ = 1 / 2 * 2 ^ (-1074 : Int) := by
        rw [zpow_neg, zpow_ofNat, mul_inv, one_div]
      _ ≤ (mantissa - reach mantissa exponent) *
          2 ^ exponent :=
        mul_le_mul (by linarith) hLeast (by positivity)
          (by linarith)
      _ ≤ q := hNear.low
  · calc
      q ≤ (mantissa + 1 / 2) * 2 ^ exponent := hNear.high
      _ ≤ 2 ^ 53 * 2 ^ (971 : Int) :=
        mul_le_mul (by linarith) hGreatest hPower.le
          (by positivity)
      _ < 10 ^ (309 : Int) := by
        rw [zpow_ofNat, zpow_ofNat]
        exact_mod_cast hLast

/- A decimal near a float is read as this float. -/
theorem ofDecimal_of_near
    (hFinite :
      Binary.ofFloat x = .finite negative mantissa exponent)
    (hPositive : 0 < mantissa)
    {d : Decimal}
    (hNear : Near mantissa exponent d.value) :
    ofDecimal negative d.digits d.exponent = x := by
  have hDigits := digits_pos_of_value_pos (hNear.pos hPositive)
  rcases value_bounds hDigits with ⟨hFrom, hTo⟩
  rcases d with ⟨digits, place⟩
  change 0 < digits at hDigits
  have hBinary :=
    (Binary.ofBits_finite x.toBits.toNat_lt hFinite).2.1
      hPositive
  rcases hNear.range hBinary with ⟨hAbove, hBelow⟩
  have hLow : -324 < place + digitCount digits := by
    rw [← zpow_lt_zpow_iff_right₀ (a := (10 : ℚ))
      (by norm_num)]
    exact hAbove.trans hTo
  have hHigh : place + digitCount digits - 1 < 309 := by
    rw [← zpow_lt_zpow_iff_right₀ (a := (10 : ℚ))
      (by norm_num)]
    exact hFrom.trans_lt hBelow
  have hLeast : leastScale = -330 := rfl
  have hGreatest : greatestScale = 310 := rfl
  have hNotLeast :
      ¬ (digits = 0 ∨
        place + digitCount digits < leastScale) := by
    omega
  have hNotGreatest :
      ¬ greatestScale < place + digitCount digits := by
    omega
  have hRatio := decimalQuotient_ratio digits place
  unfold ofDecimal
  simp only [if_neg hNotLeast, if_neg hNotGreatest]
  unfold decimalQuotient at hRatio
  split_ifs with hWhole
  · have hOne : (-place).toNat = 0 := by omega
    rw [hOne] at hRatio
    apply nearest_of_near hFinite hPositive ?_
      (Nat.mul_pos hDigits (Nat.pow_pos (by decide)))
      Nat.one_pos
    exact hRatio ▸ hNear
  · have hOne : place.toNat = 0 := by omega
    have hSame : digits * Nat.pow 10 0 = digits :=
      Nat.mul_one digits
    rw [hOne, hSame] at hRatio
    apply nearest_of_near hFinite hPositive ?_
      hDigits (Nat.pow_pos (by decide))
    exact hRatio ▸ hNear

/-
  A float is recovered from each decimal that denotes what
  its shortest one does.
-/
theorem ofDecimal_recovers
    (hFinite :
      Binary.ofFloat x = .finite negative mantissa exponent)
    {d : Decimal}
    (hValue :
      d.value = (shortestDecimal mantissa exponent).value) :
    ofDecimal negative d.digits d.exponent = x := by
  have hPower : (0 : ℚ) < 10 ^ d.exponent := by positivity
  rcases Nat.eq_zero_or_pos mantissa with rfl | hPositive
  · have hZero : d.digits = 0 := by
      rw [shortestDecimal, if_pos rfl, Decimal.value,
        Decimal.value, Nat.cast_zero, zero_mul,
        mul_eq_zero_iff_right hPower.ne'] at hValue
      exact_mod_cast hValue
    rw [ofDecimal]
    simp only [hZero, true_or, if_true]
    exact nearest_zero hFinite
  · have hBinary :=
      (Binary.ofBits_finite x.toBits.toNat_lt hFinite).2.1
        hPositive
    have hNear := near_shortest hBinary
    rw [shortestDecimal, if_neg hPositive.ne'] at hValue
    rw [← hValue] at hNear
    exact ofDecimal_of_near hFinite hPositive hNear

end Number

end Spreadsheet
