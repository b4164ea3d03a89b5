import Spreadsheet.Proofs.Number.Recovered

/-
  Numbers rounded to floats.

  Each quotient lies in the interval of one float, or it is
  beyond all of them and rounds to infinity.  So it is rounded
  to one float alone, and no float is closer to it.

  Key definitions include:
    * `Spreadsheet.Number.IsScaled`
    * `Spreadsheet.Number.overflow`
    * `Spreadsheet.Number.Rounds`

  Main results:
    * `Spreadsheet.Number.near_nearestBits`
    * `Spreadsheet.Number.rounds_iff_nearest`
    * `Spreadsheet.Number.rounds_iff_ofDecimal`
    * `Spreadsheet.Number.exceeds_iff`
    * `Spreadsheet.Number.Near.closest`
-/

------------------------------------------------------------
-- The Unit Of A Quotient
------------------------------------------------------------

namespace Spreadsheet

namespace Number

/-
  A mantissa and an exponent in the form of floats, without a
  bound on the exponent.
-/
structure IsScaled
    (mantissa : Nat)
    (exponent : Int) : Prop where
  bounded : mantissa < 2 ^ 53
  least : Binary.leastExponent ≤ exponent
  full : 2 ^ 52 ≤ mantissa ∨ exponent = Binary.leastExponent

/- A quotient is rounded to a number at most a half away. -/
theorem roundQuotient_spec
    (num : Nat)
    {den : Nat}
    (hDen : 0 < den) :
    (roundQuotient num den : ℚ) - 1 / 2 ≤ num / den ∧
      (num : ℚ) / den ≤ roundQuotient num den + 1 / 2 ∧
      (roundQuotient num den % 2 = 0 ∨
        (roundQuotient num den : ℚ) - 1 / 2 < num / den ∧
          (num : ℚ) / den < roundQuotient num den + 1 / 2) := by
  have hDenQ : (0 : ℚ) < den := by exact_mod_cast hDen
  have hSplit := Nat.div_add_mod num den
  have hRest := Nat.mod_lt num hDen
  have hMiddle :
      2 * (den * roundQuotient num den) ≤ 2 * num + den ∧
        2 * num ≤ 2 * (den * roundQuotient num den) + den ∧
        (roundQuotient num den % 2 = 0 ∨
          2 * (den * roundQuotient num den) < 2 * num + den ∧
            2 * num <
              2 * (den * roundQuotient num den) + den) := by
    unfold roundQuotient
    simp only
    generalize num / den = whole at *
    split_ifs with hNear hFar
    · exact ⟨by omega, by omega, .inr ⟨by omega, by omega⟩⟩
    · rw [Nat.mul_succ]
      exact ⟨by omega, by omega, .inr ⟨by omega, by omega⟩⟩
    · -- From the middle the even one of both is taken.
      rcases Nat.mod_two_eq_zero_or_one whole with hEven | hOdd
      · rw [hEven, Nat.add_zero]
        exact ⟨by omega, by omega, .inl hEven⟩
      · rw [hOdd, Nat.mul_succ]
        exact ⟨by omega, by omega, .inl (by omega)⟩
  rcases hMiddle with ⟨hLow, hHigh, hTie⟩
  have hLowQ :
      2 * (den * (roundQuotient num den : ℚ)) ≤
        2 * num + den := by
    exact_mod_cast hLow
  have hHighQ :
      2 * (num : ℚ) ≤
        2 * (den * roundQuotient num den) + den := by
    exact_mod_cast hHigh
  rw [le_div_iff₀ hDenQ, div_le_iff₀ hDenQ,
    lt_div_iff₀ hDenQ, div_lt_iff₀ hDenQ]
  refine ⟨by linarith, by linarith, hTie.imp_right ?_⟩
  rintro ⟨hAbove, hBelow⟩
  have hAboveQ :
      2 * (den * (roundQuotient num den : ℚ)) <
        2 * num + den := by
    exact_mod_cast hAbove
  have hBelowQ :
      2 * (num : ℚ) <
        2 * (den * roundQuotient num den) + den := by
    exact_mod_cast hBelow
  exact ⟨by linarith, by linarith⟩

variable {mantissa num den : Nat}
variable {exponent : Int}

/-
  What is rounded to a mantissa is near, since above a power
  of two nothing is rounded up to it.
-/
theorem near_of_rounded
    {q : ℚ}
    (hLow : (mantissa : ℚ) - 1 / 2 ≤ q / 2 ^ exponent)
    (hHigh : q / 2 ^ exponent ≤ mantissa + 1 / 2)
    (hTie : mantissa % 2 = 0 ∨
      (mantissa : ℚ) - 1 / 2 < q / 2 ^ exponent ∧
        q / 2 ^ exponent < mantissa + 1 / 2)
    (hFull :
      Binary.leastExponent < exponent →
        2 ^ 52 * 2 ^ exponent ≤ q) :
    Near mantissa exponent q := by
  have hPower : (0 : ℚ) < 2 ^ exponent := by positivity
  rw [le_div_iff₀ hPower] at hLow
  rw [div_le_iff₀ hPower] at hHigh
  rw [lt_div_iff₀ hPower, div_lt_iff₀ hPower] at hTie
  by_cases hBinade :
      mantissa = 2 ^ 52 ∧ Binary.leastExponent < exponent
  · have hReach : reach mantissa exponent = 1 / 4 :=
      if_pos hBinade
    have hAt := hFull hBinade.2
    have hEven : mantissa % 2 = 0 := by omega
    refine ⟨?_, hHigh, .inl hEven⟩
    rw [hReach, hBinade.1]
    push_cast
    linarith
  · have hReach : reach mantissa exponent = 1 / 2 :=
      if_neg hBinade
    refine ⟨?_, hHigh, ?_⟩
    · rw [hReach]
      exact hLow
    · rw [hReach]
      exact hTie

/- What is rounded to the next power of two is near to it. -/
theorem near_of_carry
    {q : ℚ}
    (hLow : (2 ^ 53 - 1 / 2 : ℚ) ≤ q / 2 ^ exponent)
    (hHigh : q / 2 ^ exponent ≤ 2 ^ 53 + 1 / 2)
    (hLeast : Binary.leastExponent ≤ exponent) :
    Near (2 ^ 52) (exponent + 1) q := by
  have hPower : (0 : ℚ) < 2 ^ exponent := by positivity
  have hReach : reach (2 ^ 52) (exponent + 1) = 1 / 4 :=
    if_pos ⟨rfl, by omega⟩
  rw [le_div_iff₀ hPower] at hLow
  rw [div_le_iff₀ hPower] at hHigh
  refine ⟨?_, ?_, .inl (by norm_num)⟩
  · rw [hReach, zpow_add_one₀ two_ne_zero]
    push_cast
    linarith
  · rw [zpow_add_one₀ two_ne_zero]
    push_cast
    linarith

/-
  Each positive quotient is near a mantissa at an exponent, of
  which its bits are made unless they are too great.
-/
theorem near_nearestBits
    (hNum : 0 < num)
    (hDen : 0 < den) :
    ∃ mantissa exponent,
      IsScaled mantissa exponent ∧
        Near mantissa exponent (num / den) ∧
        nearestBits num den =
          min
            ((exponent - Binary.leastExponent).toNat *
                2 ^ 52 + mantissa)
            infinityBits := by
  rcases binaryScale_spec hNum hDen with ⟨hScale, hBeyond⟩
  let unit :=
    max (binaryScale num den - 52) Binary.leastExponent
  let q := scaled num den (-unit)
  have hPower : (0 : ℚ) < 2 ^ unit := by positivity
  have hRatio :
      (q.1 : ℚ) / q.2 = num / den / 2 ^ unit := by
    rw [scaled_ratio, zpow_neg, ← div_eq_mul_inv]
  have hBits :
      nearestBits num den =
        min
          ((unit - Binary.leastExponent).toNat * 2 ^ 52 +
            roundQuotient q.1 q.2)
          infinityBits := rfl
  have hSpec :=
    roundQuotient_spec q.1 (scaled_den_pos hDen num (-unit))
  rw [hRatio] at hSpec
  rw [hBits]
  generalize roundQuotient q.1 q.2 = rounded at hSpec ⊢
  rcases hSpec with ⟨hLow, hHigh, hTie⟩
  have hLeast : Binary.leastExponent ≤ unit :=
    le_max_right _ _
  have hFull :
      Binary.leastExponent < unit →
        (2 : ℚ) ^ 52 * 2 ^ unit ≤ num / den := by
    intro hHigher
    have hUnit : binaryScale num den = 52 + unit := by omega
    rw [hUnit, zpow_add₀ two_ne_zero] at hScale
    exact_mod_cast hScale
  have hBounded : rounded ≤ 2 ^ 53 := by
    have hNext :
        (num : ℚ) / den / 2 ^ unit < 2 ^ (53 : Int) := by
      rw [div_lt_iff₀ hPower, ← zpow_add₀ two_ne_zero]
      refine hBeyond.trans_le
        (zpow_le_zpow_right₀ one_le_two ?_)
      omega
    rw [zpow_ofNat] at hNext
    have hLess : (rounded : ℚ) < 2 ^ 53 + 1 := by linarith
    have hLess : rounded < 2 ^ 53 + 1 := by
      exact_mod_cast hLess
    omega
  by_cases hCarry : rounded = 2 ^ 53
  · have hSame :
        (unit + 1 - Binary.leastExponent).toNat * 2 ^ 52 +
            2 ^ 52 =
          (unit - Binary.leastExponent).toNat * 2 ^ 52 +
            rounded := by
      omega
    refine ⟨2 ^ 52, unit + 1, ?_, ?_, ?_⟩
    · exact ⟨by norm_num, by omega, .inl (le_refl _)⟩
    · rw [hCarry] at hLow hHigh
      push_cast at hLow hHigh
      exact near_of_carry hLow hHigh hLeast
    · rw [hSame]
  · refine ⟨rounded, unit, ⟨by omega, hLeast, ?_⟩,
      near_of_rounded hLow hHigh hTie hFull, rfl⟩
    by_contra hNeither
    rw [not_or, not_le] at hNeither
    have hAt := hFull (by omega)
    rw [← le_div_iff₀ hPower] at hAt
    have hMore : (2 : ℚ) ^ 52 < rounded + 1 := by linarith
    have hMore : 2 ^ 52 < rounded + 1 := by
      exact_mod_cast hMore
    omega

end Number

end Spreadsheet

------------------------------------------------------------
-- Readings Of Bits
------------------------------------------------------------

namespace Spreadsheet

namespace Number

open Float.Model.UnpackedFloat in
/- A float has the bits from which it is made. -/
theorem toBits_ofBits
    {bits : UInt64}
    (hNumber :
      bits.toNat / 2 ^ 52 % 2 ^ 11 = 2047 →
        bits.toNat % 2 ^ 52 = 0) :
    (Float.ofBits bits).toBits = bits := by
  apply UInt64.toBitVec_inj.mp
  refine pack_unpack_of_valid
    ⟨fun hExponent hMantissa => ?_⟩
  have hTop : bits.toNat / 2 ^ 52 % 2 ^ 11 = 2047 := by
    rw [← toNat_unpackExponent, hExponent]
    rfl
  have hNone := hNumber hTop
  rw [← toNat_unpackMantissa] at hNone
  exact (hMantissa (BitVec.eq_of_toNat_eq hNone)).elim

/- Bits up to those of infinity are read with their sign. -/
theorem ofFloat_ofBits
    (negative : Bool)
    {bits : Nat}
    (hBits : bits ≤ infinityBits) :
    Binary.ofFloat
        (Float.ofBits
          ((if negative then Nat.pow 2 63 else 0) +
            bits).toUInt64) =
      Binary.ofBits
        ((if negative then 2 ^ 63 else 0) + bits) := by
  have hInfinity : infinityBits = 2047 * 2 ^ 52 := rfl
  have hSign : Nat.pow 2 63 = 2 ^ 63 := rfl
  have hValue :
      ((if negative then 2 ^ 63 else 0) +
          bits).toUInt64.toNat =
        (if negative then 2 ^ 63 else 0) + bits := by
    rw [Nat.toUInt64, UInt64.toNat_ofNat']
    apply Nat.mod_eq_of_lt
    split_ifs
    · omega
    · omega
  rw [hSign, Binary.ofFloat, toBits_ofBits, hValue]
  rw [hValue]
  split_ifs
  · omega
  · omega

/- A mantissa and an exponent are read from their bits. -/
theorem ofBits_scaled
    (negative : Bool)
    {mantissa : Nat}
    {exponent : Int}
    (hScaled : IsScaled mantissa exponent)
    (hGreatest : exponent ≤ 971) :
    Binary.ofBits
        ((if negative then 2 ^ 63 else 0) +
          ((exponent - Binary.leastExponent).toNat * 2 ^ 52 +
            mantissa)) =
      .finite negative mantissa exponent := by
  have hLeastIs : Binary.leastExponent = -1074 := rfl
  have hBounded := hScaled.bounded
  have hLeast := hScaled.least
  obtain ⟨count, hCount⟩ :=
    Int.eq_ofNat_of_zero_le (sub_nonneg.mpr hLeast)
  have hSign :
      ∀ rest < 2 ^ 63,
        ((((if negative then 2 ^ 63 else 0) + rest) /
            2 ^ 63 % 2) == 1) = negative := by
    intro rest hRest
    cases negative with
    | false =>
        rw [if_neg (by decide), beq_eq_false_iff_ne]
        omega
    | true =>
        rw [if_pos rfl, beq_iff_eq]
        omega
  have hCarried :
      (if negative then 2 ^ 63 else 0) % 2 ^ 63 = 0 := by
    split_ifs
    · rfl
    · rfl
  rw [hCount, Int.toNat_natCast]
  unfold Binary.ofBits
  simp only [Nat.pow_eq]
  rw [hSign (count * 2 ^ 52 + mantissa) (by omega)]
  generalize (if negative then 2 ^ 63 else 0) = sign
    at hCarried ⊢
  by_cases hFull : 2 ^ 52 ≤ mantissa
  · have hField :
        (sign + (count * 2 ^ 52 + mantissa)) / 2 ^ 52 %
            2 ^ 11 = count + 1 := by
      omega
    have hFraction :
        (sign + (count * 2 ^ 52 + mantissa)) % 2 ^ 52 =
          mantissa - 2 ^ 52 := by
      omega
    have hMantissa : 2 ^ 52 + (mantissa - 2 ^ 52) = mantissa :=
      Nat.add_sub_of_le hFull
    have hExponent :
        Binary.leastExponent + (((count + 1 : Nat) : Int) - 1) =
          exponent := by
      omega
    rw [hField, hFraction, if_neg (by omega),
      if_neg (by omega), hMantissa, hExponent]
  · have hSubnormal := hScaled.full.resolve_left hFull
    have hNone : count = 0 := by omega
    have hField :
        (sign + (count * 2 ^ 52 + mantissa)) / 2 ^ 52 %
            2 ^ 11 = 0 := by
      omega
    have hFraction :
        (sign + (count * 2 ^ 52 + mantissa)) % 2 ^ 52 =
          mantissa := by
      omega
    rw [hField, hFraction, if_neg (by omega), if_pos rfl,
      hSubnormal]

/- So are the bits of infinity. -/
theorem ofBits_infinityBits
    (negative : Bool) :
    Binary.ofBits
        ((if negative then 2 ^ 63 else 0) + infinityBits) =
      .infinite negative := by
  cases negative with
  | false => decide +kernel
  | true => decide +kernel

end Number

end Spreadsheet

------------------------------------------------------------
-- Rounding
------------------------------------------------------------

namespace Spreadsheet

namespace Number

/- Where numbers begin that are rounded to infinity. -/
def overflow : ℚ :=
  (2 ^ 53 - 1 / 2) * 2 ^ (971 : Int)

/-
  A magnitude is rounded to a float of a sign: it lies in the
  interval of the float, or beyond those of all finite floats.
-/
def Rounds
    (negative : Bool)
    (q : ℚ)
    (x : Float) : Prop :=
  (∃ mantissa exponent,
    Binary.ofFloat x = .finite negative mantissa exponent ∧
      Near mantissa exponent q) ∨
  Binary.ofFloat x = .infinite negative ∧ overflow ≤ q

variable {mantissa num den : Nat}
variable {exponent : Int}
variable {negative : Bool}
variable {q : ℚ}
variable {x : Float}

/- The interval of a full mantissa, and what is below it. -/
theorem le_sub_reach
    (hFull : 2 ^ 52 ≤ mantissa)
    (hLeast : Binary.leastExponent < exponent) :
    (2 : ℚ) ^ 52 - 1 / 4 ≤
        mantissa - reach mantissa exponent ∧
      (2 : ℚ) ^ 52 - 1 / 2 ≤
        mantissa - 2 * reach mantissa exponent := by
  unfold reach
  split_ifs with hBinade
  · rw [hBinade.1]
    push_cast
    exact ⟨le_refl _, by norm_num⟩
  · have hOther : mantissa ≠ 2 ^ 52 :=
      fun hSame => hBinade ⟨hSame, hLeast⟩
    have hNext : (2 : ℚ) ^ 52 + 1 ≤ mantissa := by
      have hMore : 2 ^ 52 + 1 ≤ mantissa := by omega
      exact_mod_cast hMore
    exact ⟨by linarith, by linarith⟩

/- What is near a mantissa beyond the floats is beyond them. -/
theorem overflow_le_of_near
    (hScaled : IsScaled mantissa exponent)
    (hNear : Near mantissa exponent q)
    (hGreat : 971 < exponent) :
    overflow ≤ q := by
  have hLeast : Binary.leastExponent = -1074 := rfl
  have hFull := hScaled.full.resolve_right (by omega)
  have hUnit :
      2 * (2 : ℚ) ^ (971 : Int) ≤ 2 ^ exponent := by
    rw [mul_comm, ← zpow_add_one₀ two_ne_zero]
    exact zpow_le_zpow_right₀ one_le_two (by omega)
  have hHigher : Binary.leastExponent < exponent := by omega
  have hMantissa := (le_sub_reach hFull hHigher).1
  calc
    overflow =
        (2 ^ 52 - 1 / 4) * (2 * 2 ^ (971 : Int)) := by
      rw [overflow]
      ring
    _ ≤ (2 ^ 52 - 1 / 4) * 2 ^ exponent :=
      mul_le_mul_of_nonneg_left hUnit (by norm_num)
    _ ≤ (mantissa - reach mantissa exponent) *
        2 ^ exponent :=
      mul_le_mul_of_nonneg_right hMantissa (by positivity)
    _ ≤ q := hNear.low

/- What is near a mantissa within the floats is within them. -/
theorem lt_overflow_of_near
    (hBounded : mantissa < 2 ^ 53)
    (hNear : Near mantissa exponent q)
    (hGreatest : exponent ≤ 971) :
    q < overflow := by
  have hPower : (0 : ℚ) < 2 ^ exponent := by positivity
  have hUnit : (2 : ℚ) ^ exponent ≤ 2 ^ (971 : Int) :=
    zpow_le_zpow_right₀ one_le_two hGreatest
  have hMantissa : (mantissa : ℚ) + 1 / 2 ≤ 2 ^ 53 - 1 / 2 := by
    have hNext : (mantissa : ℚ) + 1 ≤ 2 ^ 53 := by
      exact_mod_cast hBounded
    linarith
  have hHigh :
      (mantissa + 1 / 2) * (2 : ℚ) ^ exponent ≤ overflow :=
    mul_le_mul hMantissa hUnit hPower.le (by norm_num)
  rcases hNear.inside with hEven | ⟨-, hBelow⟩
  · -- The greatest mantissa is odd, so this one is less.
    have hLess : (mantissa : ℚ) + 2 ≤ 2 ^ 53 := by
      have hNext : mantissa + 2 ≤ 2 ^ 53 := by omega
      exact_mod_cast hNext
    calc
      q ≤ (mantissa + 1 / 2) * 2 ^ exponent := hNear.high
      _ < (2 ^ 53 - 1 / 2) * 2 ^ exponent :=
        mul_lt_mul_of_pos_right (by linarith) hPower
      _ ≤ overflow :=
        mul_le_mul_of_nonneg_left hUnit (by norm_num)
  · exact hBelow.trans_le hHigh

/- A positive quotient is rounded to its nearest float. -/
theorem rounds_nearest_of_pos
    (negative : Bool)
    (hNum : 0 < num)
    (hDen : 0 < den) :
    Rounds negative (num / den) (nearest negative num den) := by
  have hInfinity : infinityBits = 2047 * 2 ^ 52 := rfl
  have hLeastIs : Binary.leastExponent = -1074 := rfl
  rcases near_nearestBits hNum hDen with
    ⟨mantissa, exponent, hScaled, hNear, hBits⟩
  have hReading :
      Binary.ofFloat (nearest negative num den) =
        Binary.ofBits
          ((if negative then 2 ^ 63 else 0) +
            nearestBits num den) := by
    unfold nearest
    simp only [if_neg hNum.ne']
    apply ofFloat_ofBits
    rw [hBits]
    exact Nat.min_le_right _ _
  have hBounded := hScaled.bounded
  by_cases hGreatest : exponent ≤ 971
  · rw [Nat.min_eq_left (by omega)] at hBits
    rw [hBits, ofBits_scaled negative hScaled hGreatest]
      at hReading
    exact .inl ⟨mantissa, exponent, hReading, hNear⟩
  · have hFull := hScaled.full.resolve_right (by omega)
    rw [Nat.min_eq_right (by omega)] at hBits
    rw [hBits, ofBits_infinityBits] at hReading
    exact .inr ⟨hReading,
      overflow_le_of_near hScaled hNear (by omega)⟩

/- What is below half the least float is rounded to zero. -/
theorem rounds_zero
    (negative : Bool)
    (hSign : 0 ≤ q)
    (hSmall : q ≤ 1 / 2 * 2 ^ Binary.leastExponent) :
    Rounds negative q (nearest negative 0 1) := by
  have hReading :
      Binary.ofFloat (nearest negative 0 1) =
        .finite negative 0 Binary.leastExponent := by
    cases negative with
    | false => decide +kernel
    | true => decide +kernel
  have hPower : (0 : ℚ) < 2 ^ Binary.leastExponent := by
    positivity
  have hReach : reach 0 Binary.leastExponent = 1 / 2 :=
    if_neg (by simp)
  refine .inl ⟨0, Binary.leastExponent, hReading, ?_, ?_,
    .inl rfl⟩
  · rw [hReach, Nat.cast_zero]
    linarith
  · rw [Nat.cast_zero, zero_add]
    exact hSmall

/- Each quotient is rounded to its nearest float. -/
theorem rounds_nearest
    (negative : Bool)
    (num : Nat)
    (hDen : 0 < den) :
    Rounds negative (num / den) (nearest negative num den) := by
  rcases Nat.eq_zero_or_pos num with rfl | hNum
  · have hZero :
        nearest negative 0 den = nearest negative 0 1 := by
      unfold nearest
      simp only [if_pos]
    rw [hZero, Nat.cast_zero, zero_div]
    exact rounds_zero negative (le_refl 0) (by positivity)
  · exact rounds_nearest_of_pos negative hNum hDen

/- What is near zero is near no positive float. -/
theorem not_near_zero
    (hZero : Near 0 Binary.leastExponent q)
    (hPositive : 0 < mantissa)
    (hLeast : Binary.leastExponent ≤ exponent) :
    ¬ Near mantissa exponent q := by
  intro hNear
  have hPower : (0 : ℚ) < 2 ^ exponent := by positivity
  have hUnit :
      (2 : ℚ) ^ Binary.leastExponent ≤ 2 ^ exponent :=
    zpow_le_zpow_right₀ one_le_two hLeast
  have hReach := reach_le mantissa exponent
  have hHigh := hZero.high
  rw [Nat.cast_zero, zero_add] at hHigh
  have hOne : (1 : ℚ) ≤ mantissa := by exact_mod_cast hPositive
  rcases hNear.inside with hEven | ⟨hAbove, -⟩
  · have hTwo : (2 : ℚ) ≤ mantissa := by
      have hNext : 2 ≤ mantissa := by omega
      exact_mod_cast hNext
    have hLow :
        1 * (2 : ℚ) ^ exponent ≤
          (mantissa - reach mantissa exponent) *
            2 ^ exponent :=
      mul_le_mul_of_nonneg_right (by linarith) hPower.le
    have hNearLow := hNear.low
    linarith
  · have hLow :
        1 / 2 * (2 : ℚ) ^ exponent ≤
          (mantissa - reach mantissa exponent) *
            2 ^ exponent :=
      mul_le_mul_of_nonneg_right (by linarith) hPower.le
    linarith

/- A finite float and its mantissa, if it is rounded to. -/
theorem Rounds.cases
    (hRounds : Rounds negative (num / den) x)
    (hDen : 0 < den) :
    (∃ mantissa exponent,
      Binary.ofFloat x = .finite negative mantissa exponent ∧
        0 < mantissa ∧
        Near mantissa exponent (num / den) ∧
        IsBinary mantissa exponent ∧
        x = nearest negative num den) ∨
    (x = nearest negative 0 1 ∧
      Near 0 Binary.leastExponent (num / den)) ∨
    (Binary.ofFloat x = .infinite negative ∧
      overflow ≤ (num : ℚ) / den) := by
  rcases hRounds with
    ⟨mantissa, exponent, hFinite, hNear⟩ | hInfinite
  · rcases Binary.ofBits_finite x.toBits.toNat_lt hFinite with
      ⟨-, hBinary, hLeast⟩
    rcases Nat.eq_zero_or_pos mantissa with rfl | hPositive
    · rw [hLeast rfl] at hNear
      exact .inr (.inl ⟨(nearest_zero hFinite).symm, hNear⟩)
    · have hDenQ : (0 : ℚ) < den := by exact_mod_cast hDen
      have hNum : 0 < num := by
        have hQuotient := hNear.pos hPositive
        rw [div_pos_iff_of_pos_right hDenQ] at hQuotient
        exact_mod_cast hQuotient
      exact .inl ⟨mantissa, exponent, hFinite, hPositive,
        hNear, hBinary hPositive,
        (nearest_of_near hFinite hPositive hNear hNum
          hDen).symm⟩
  · exact .inr (.inr hInfinite)

/- A quotient is rounded to its nearest float alone. -/
theorem rounds_iff_nearest
    (hDen : 0 < den) :
    Rounds negative (num / den) x ↔
      x = nearest negative num den := by
  have hNearest := rounds_nearest negative num hDen
  constructor
  · intro hRounds
    have hZero :
        Near 0 Binary.leastExponent (num / den) →
          (num : ℚ) / den < overflow :=
      fun hNear =>
        lt_overflow_of_near (by norm_num) hNear (by decide)
    rcases hRounds.cases hDen with
      ⟨-, -, -, -, -, -, hSame⟩ | ⟨hX, hNear⟩ |
        ⟨hX, hGreat⟩
    · exact hSame
    · rcases hNearest.cases hDen with
        ⟨mantissa, exponent, -, hPositive, hOther, hBinary, -⟩ |
          ⟨hY, -⟩ | ⟨-, hGreat⟩
      · exact (not_near_zero hNear hPositive hBinary.least
          hOther).elim
      · exact hX.trans hY.symm
      · exact absurd hGreat (not_le.mpr (hZero hNear))
    · rcases hNearest.cases hDen with
        ⟨mantissa, exponent, -, -, hNear, hBinary, -⟩ |
          ⟨-, hNear⟩ | ⟨hY, -⟩
      · exact absurd hGreat (not_le.mpr
          (lt_overflow_of_near hBinary.bounded hNear
            hBinary.greatest))
      · exact absurd hGreat (not_le.mpr (hZero hNear))
      · rw [eq_of_infinite hX, eq_of_infinite hY]
  · rintro rfl
    exact hNearest

/- From there on a natural number is too great for a float. -/
theorem exceeds_iff
    (n : Nat) :
    exceeds n 1 = true ↔ overflow ≤ n := by
  have hInfinity : infinityBits = 2047 * 2 ^ 52 := rfl
  have hLeastIs : Binary.leastExponent = -1074 := rfl
  rw [exceeds, Bool.and_eq_true, bne_iff_ne, beq_iff_eq]
  rcases Nat.eq_zero_or_pos n with rfl | hPositive
  · have hOverflow : ¬ overflow ≤ (0 : Nat) := by
      have hPower : (0 : ℚ) < 2 ^ (971 : Int) := by positivity
      rw [overflow, Nat.cast_zero, not_le]
      exact mul_pos (by norm_num) hPower
    simp only [ne_eq, not_true, false_and, hOverflow]
  · rcases near_nearestBits hPositive Nat.one_pos with
      ⟨mantissa, exponent, hScaled, hNear, hBits⟩
    rw [Nat.cast_one, div_one] at hNear
    have hBounded := hScaled.bounded
    have hFull := hScaled.full
    have hGreat : overflow ≤ n ↔ 971 < exponent := by
      constructor
      · intro hBeyond
        by_contra hGreatest
        exact absurd hBeyond (not_le.mpr
          (lt_overflow_of_near hBounded hNear (by omega)))
      · exact overflow_le_of_near hScaled hNear
    rw [hGreat, hBits]
    omega

end Number

end Spreadsheet

------------------------------------------------------------
-- Decimals
------------------------------------------------------------

namespace Spreadsheet

namespace Number

variable {negative : Bool}
variable {x : Float}

/- A decimal far below the floats is rounded to zero. -/
theorem rounds_of_lt_leastScale
    (negative : Bool)
    {d : Decimal}
    (hSmall :
      d.digits = 0 ∨
        d.exponent + digitCount d.digits < leastScale) :
    Rounds negative d.value (nearest negative 0 1) := by
  have hTiny : 2 * 2 ^ 1074 ≤ 10 ^ 330 := by decide +kernel
  have hLeast :
      (10 : ℚ) ^ (-330 : Int) ≤
        1 / 2 * 2 ^ Binary.leastExponent := by
    calc
      (10 : ℚ) ^ (-330 : Int) ≤ (2 * 2 ^ 1074)⁻¹ := by
        rw [zpow_neg, zpow_ofNat]
        apply inv_anti₀ (by positivity)
        exact_mod_cast hTiny
      _ = 1 / 2 * 2 ^ Binary.leastExponent := by
        rw [Binary.leastExponent, zpow_neg, zpow_ofNat,
          mul_inv, one_div]
  apply rounds_zero
  · rw [Decimal.value]
    positivity
  · rcases Nat.eq_zero_or_pos d.digits with hNone | hDigits
    · rw [Decimal.value, hNone, Nat.cast_zero, zero_mul]
      positivity
    · have hScale := hSmall.resolve_left hDigits.ne'
      have hPower :
          (10 : ℚ) ^ (d.exponent + digitCount d.digits) ≤
            10 ^ (-330 : Int) :=
        zpow_le_zpow_right₀ (by norm_num) hScale.le
      exact (value_bounds hDigits).2.le.trans
        (hPower.trans hLeast)

/- A decimal far beyond the floats is rounded to infinity. -/
theorem rounds_of_greatestScale_lt
    (negative : Bool)
    {d : Decimal}
    (hDigits : 0 < d.digits)
    (hGreat :
      greatestScale < d.exponent + digitCount d.digits) :
    Rounds negative d.value
      (Float.ofBits
        ((if negative then Nat.pow 2 63 else 0) +
          infinityBits).toUInt64) := by
  have hLast : 2 ^ 53 * 2 ^ 971 ≤ 10 ^ 310 := by
    decide +kernel
  have hGreatest : overflow ≤ 10 ^ (310 : Int) := by
    calc
      overflow ≤ 2 ^ 53 * 2 ^ (971 : Int) :=
        mul_le_mul_of_nonneg_right (by norm_num)
          (by positivity)
      _ ≤ 10 ^ (310 : Int) := by
        rw [zpow_ofNat, zpow_ofNat]
        exact_mod_cast hLast
  have hPower :
      (10 : ℚ) ^ (310 : Int) ≤
        10 ^ (d.exponent + digitCount d.digits - 1) :=
    zpow_le_zpow_right₀ (by norm_num)
      (Int.le_sub_one_of_lt hGreat)
  refine .inr ⟨?_, hGreatest.trans
    (hPower.trans (value_bounds hDigits).1)⟩
  rw [ofFloat_ofBits negative (le_refl _), ofBits_infinityBits]

/- A decimal is rounded to the float that it is read as. -/
theorem rounds_ofDecimal
    (negative : Bool)
    (d : Decimal) :
    Rounds negative d.value
      (ofDecimal negative d.digits d.exponent) := by
  have hRatio := decimalQuotient_ratio d.digits d.exponent
  have hValue :
      d.value = d.digits * (10 : ℚ) ^ d.exponent := rfl
  unfold decimalQuotient at hRatio
  rw [← hValue] at hRatio
  unfold ofDecimal
  simp only
  split
  · rename_i hSmall
    exact rounds_of_lt_leastScale negative hSmall
  · rename_i hNotSmall
    have hDigits : 0 < d.digits :=
      Nat.pos_of_ne_zero fun hNone => hNotSmall (.inl hNone)
    split
    · rename_i hGreat
      exact rounds_of_greatestScale_lt negative hDigits hGreat
    · split
      · rename_i hWhole
        have hOne : (-d.exponent).toNat = 0 := by omega
        rw [hOne] at hRatio
        rw [← hRatio]
        exact rounds_nearest negative _ Nat.one_pos
      · have hOne : d.exponent.toNat = 0 := by omega
        have hSame : d.digits * Nat.pow 10 0 = d.digits :=
          Nat.mul_one d.digits
        rw [hOne, hSame] at hRatio
        rw [← hRatio]
        exact rounds_nearest negative _
          (Nat.pow_pos (by decide))

/- And to no other one. -/
theorem rounds_iff_ofDecimal
    {d : Decimal} :
    Rounds negative d.value x ↔
      x = ofDecimal negative d.digits d.exponent := by
  have hRead := rounds_ofDecimal negative d
  have hDen := decimalQuotient_den_pos d.digits d.exponent
  have hRatio := decimalQuotient_ratio d.digits d.exponent
  have hValue :
      d.value = d.digits * (10 : ℚ) ^ d.exponent := rfl
  rw [hValue, ← hRatio, rounds_iff_nearest hDen] at hRead ⊢
  rw [hRead]

end Number

end Spreadsheet

------------------------------------------------------------
-- The Closest Float
------------------------------------------------------------

namespace Spreadsheet

namespace Number

variable {mantissa mantissa' : Nat}
variable {exponent exponent' : Int}

/-
  Two numbers in the form of floats are the same, or at least
  a unit apart, below the first one twice its reach.
-/
theorem IsScaled.apart
    (hScaled : IsScaled mantissa exponent)
    (hOther : IsScaled mantissa' exponent') :
    (mantissa' : ℚ) * 2 ^ exponent' =
        mantissa * 2 ^ exponent ∨
      (mantissa + 1) * 2 ^ exponent ≤
        (mantissa' : ℚ) * 2 ^ exponent' ∨
      (mantissa' : ℚ) * 2 ^ exponent' ≤
        (mantissa - 2 * reach mantissa exponent) *
          2 ^ exponent := by
  have hPower : (0 : ℚ) < 2 ^ exponent := by positivity
  have hReach := reach_le mantissa exponent
  rcases le_or_gt exponent exponent' with hAbove | hBelow
  · rcases Int.eq_ofNat_of_zero_le
        (sub_nonneg.mpr hAbove) with
      ⟨count, hCount⟩
    have hUnits :
        (mantissa' : ℚ) * 2 ^ exponent' =
          (mantissa' * 2 ^ count : Nat) * 2 ^ exponent := by
      have hExponent : exponent' = count + exponent := by
        omega
      rw [hExponent, zpow_add₀ two_ne_zero, zpow_natCast]
      push_cast
      ring
    rw [hUnits]
    generalize mantissa' * 2 ^ count = units
    rcases lt_trichotomy units mantissa with
      hLess | rfl | hMore
    · have hNext : (units : ℚ) + 1 ≤ mantissa := by
        exact_mod_cast hLess
      exact .inr (.inr
        (mul_le_mul_of_nonneg_right (by linarith) hPower.le))
    · exact .inl rfl
    · have hNext : (mantissa : ℚ) + 1 ≤ units := by
        exact_mod_cast hMore
      exact .inr (.inl
        (mul_le_mul_of_nonneg_right hNext hPower.le))
  · have hLeast := hOther.least
    have hFull := hScaled.full.resolve_right (by omega)
    have hUnit :
        (2 : ℚ) ^ exponent' ≤ 1 / 2 * 2 ^ exponent := by
      have hHalf :
          (1 / 2 : ℚ) * 2 ^ exponent = 2 ^ (exponent - 1) := by
        rw [zpow_sub_one₀ two_ne_zero]
        ring
      rw [hHalf]
      exact zpow_le_zpow_right₀ one_le_two (by omega)
    have hBounded : (mantissa' : ℚ) ≤ 2 ^ 53 - 1 := by
      have hNext : (mantissa' : ℚ) + 1 ≤ 2 ^ 53 := by
        exact_mod_cast hOther.bounded
      linarith
    have hHigher : Binary.leastExponent < exponent := by omega
    have hMantissa := (le_sub_reach hFull hHigher).2
    refine .inr (.inr ?_)
    calc
      (mantissa' : ℚ) * 2 ^ exponent' ≤
          (2 ^ 53 - 1) * (1 / 2 * 2 ^ exponent) :=
        mul_le_mul hBounded hUnit (by positivity)
          (by norm_num)
      _ = (2 ^ 52 - 1 / 2) * 2 ^ exponent := by
        ring
      _ ≤ _ := mul_le_mul_of_nonneg_right hMantissa hPower.le

/- No number in the form of floats is closer than a near one. -/
theorem Near.closest
    {q : ℚ}
    (hNear : Near mantissa exponent q)
    (hScaled : IsScaled mantissa exponent)
    (hOther : IsScaled mantissa' exponent') :
    |q - mantissa * 2 ^ exponent| ≤
      |q - mantissa' * 2 ^ exponent'| := by
  have hPower : (0 : ℚ) < 2 ^ exponent := by positivity
  have hPositive :=
    mul_pos (reach_pos mantissa exponent) hPower
  have hReach :=
    mul_le_mul_of_nonneg_right (reach_le mantissa exponent)
      hPower.le
  have hLow := hNear.low
  have hHigh := hNear.high
  rw [sub_mul] at hLow
  rw [add_mul] at hHigh
  rcases hScaled.apart hOther with hSame | hMore | hLess
  · rw [hSame]
  · rw [add_mul, one_mul] at hMore
    rw [abs_sub_comm q (mantissa' * 2 ^ exponent')]
    refine le_trans ?_ (le_abs_self _)
    rw [abs_le]
    exact ⟨by linarith, by linarith⟩
  · rw [sub_mul, mul_assoc] at hLess
    refine le_trans ?_ (le_abs_self _)
    rw [abs_le]
    exact ⟨by linarith, by linarith⟩

end Number

end Spreadsheet
