import Mathlib.Algebra.Order.Field.Power
import Mathlib.Algebra.Order.Field.Rat
import Mathlib.Tactic.FieldSimp
import Mathlib.Tactic.Linarith
import Mathlib.Tactic.NormNum
import Mathlib.Tactic.Ring
import Spreadsheet.Number.Nearest

/-
  The nearest float.

  Around each positive float there is an interval of quotients
  that round to it.  It reaches half a unit in the last place
  to both sides, below a power of two only a quarter, and its
  ends are part of it if the mantissa is even.

  Key definitions include:
    * `Spreadsheet.Number.IsBinary`
    * `Spreadsheet.Number.Near`

  Main results:
    * `Spreadsheet.Number.roundQuotient_eq`
    * `Spreadsheet.Number.binaryScale_spec`
    * `Spreadsheet.Number.nearestBits_of_near`
-/

------------------------------------------------------------
-- Rounding Of Quotients
------------------------------------------------------------

namespace Spreadsheet

namespace Number

/- Rounding by the remainder: to even from the middle. -/
theorem roundQuotient_of_middle
    {num den m : Nat}
    (hDen : 0 < den)
    (hLow : 2 * (den * m) ≤ 2 * num + den)
    (hHigh : 2 * num ≤ 2 * (den * m) + den)
    (hTie : m % 2 = 0 ∨
      2 * (den * m) < 2 * num + den ∧
        2 * num < 2 * (den * m) + den) :
    roundQuotient num den = m := by
  have hSplit := Nat.div_add_mod num den
  have hRest := Nat.mod_lt num hDen
  have hUpper : num / den ≤ m := by
    by_contra hMore
    have hScaled :=
      Nat.mul_le_mul_left den (Nat.lt_of_not_le hMore)
    rw [Nat.mul_succ] at hScaled
    omega
  have hLower : m ≤ num / den + 1 := by
    by_contra hLess
    have hScaled :=
      Nat.mul_le_mul_left den (Nat.lt_of_not_le hLess)
    rw [Nat.mul_succ, Nat.mul_succ] at hScaled
    omega
  unfold roundQuotient
  simp only
  rcases Nat.lt_or_eq_of_le hUpper with hBelow | hSame
  · have hNext : m = num / den + 1 := by omega
    rw [hNext, Nat.mul_succ] at hLow hTie
    rw [hNext]
    split_ifs with hNear hFar
    · omega
    · rfl
    · omega
  · rw [← hSame] at hHigh hTie ⊢
    split_ifs with hNear hFar
    · rfl
    · omega
    · omega

/-
  A quotient not more than a half away from a number is
  rounded to it, from just a half away if it is even.
-/
theorem roundQuotient_eq
    {num den m : Nat}
    (hDen : 0 < den)
    (hLow : (m : ℚ) - 1 / 2 ≤ num / den)
    (hHigh : (num : ℚ) / den ≤ m + 1 / 2)
    (hTie : m % 2 = 0 ∨
      (m : ℚ) - 1 / 2 < num / den ∧
        (num : ℚ) / den < m + 1 / 2) :
    roundQuotient num den = m := by
  have hDenQ : (0 : ℚ) < den := by exact_mod_cast hDen
  rw [le_div_iff₀ hDenQ] at hLow
  rw [div_le_iff₀ hDenQ] at hHigh
  rw [lt_div_iff₀ hDenQ, div_lt_iff₀ hDenQ] at hTie
  apply roundQuotient_of_middle hDen
  · have hScaled : 2 * (den * m : ℚ) ≤ 2 * num + den := by
      linarith
    exact_mod_cast hScaled
  · have hScaled : (2 * num : ℚ) ≤ 2 * (den * m) + den := by
      linarith
    exact_mod_cast hScaled
  · rcases hTie with hEven | ⟨hAbove, hBelow⟩
    · exact .inl hEven
    · have hScaledAbove :
          2 * (den * m : ℚ) < 2 * num + den := by
        linarith
      have hScaledBelow :
          (2 * num : ℚ) < 2 * (den * m) + den := by
        linarith
      exact .inr ⟨by exact_mod_cast hScaledAbove,
        by exact_mod_cast hScaledBelow⟩

end Number

end Spreadsheet

------------------------------------------------------------
-- Powers Of Two
------------------------------------------------------------

namespace Spreadsheet

namespace Number

/- A power is a quotient of powers of natural exponents. -/
theorem zpow_eq_quotient
    {base : ℚ}
    (hBase : base ≠ 0)
    (exponent : Int) :
    base ^ exponent =
      base ^ exponent.toNat / base ^ (-exponent).toNat := by
  rw [← zpow_natCast, ← zpow_natCast, ← zpow_sub₀ hBase]
  congr 1
  omega

/- A scaled quotient is the quotient times the power. -/
theorem scaled_ratio
    (num den : Nat)
    (exponent : Int) :
    ((scaled num den exponent).1 : ℚ) /
        (scaled num den exponent).2 =
      num / den * 2 ^ exponent := by
  rw [zpow_eq_quotient two_ne_zero]
  unfold scaled
  split_ifs with hSign
  · have hZero : (-exponent).toNat = 0 := by omega
    rw [hZero]
    simp only [Nat.pow_eq]
    push_cast
    ring
  · have hZero : exponent.toNat = 0 := by omega
    rw [hZero]
    simp only [Nat.pow_eq]
    push_cast
    ring

theorem scaled_den_pos
    {den : Nat}
    (hDen : 0 < den)
    (num : Nat)
    (exponent : Int) :
    0 < (scaled num den exponent).2 := by
  unfold scaled
  split_ifs
  · exact hDen
  · exact Nat.mul_pos hDen (Nat.pow_pos (by decide))

theorem two_zpow_log2_le
    {n : Nat}
    (hPositive : 0 < n) :
    (2 : ℚ) ^ (n.log2 : Int) ≤ n := by
  rw [zpow_natCast]
  exact_mod_cast Nat.log2_self_le hPositive.ne'

theorem lt_two_zpow_log2
    (n : Nat) :
    (n : ℚ) < 2 ^ ((n.log2 : Int) + 1) := by
  rw [← Nat.cast_succ, zpow_natCast]
  exact_mod_cast Nat.lt_log2_self

/- The scale of a quotient is the power of two below it. -/
theorem binaryScale_spec
    {num den : Nat}
    (hNum : 0 < num)
    (hDen : 0 < den) :
    (2 : ℚ) ^ binaryScale num den ≤ num / den ∧
      (num : ℚ) / den < 2 ^ (binaryScale num den + 1) := by
  have hDenQ : (0 : ℚ) < den := by exact_mod_cast hDen
  let guess : Int := (num.log2 : Int) - den.log2
  have hAbove : (2 : ℚ) ^ (guess - 1) ≤ num / den := by
    rw [le_div_iff₀ hDenQ]
    calc
      (2 : ℚ) ^ (guess - 1) * den ≤
          2 ^ (guess - 1) * 2 ^ ((den.log2 : Int) + 1) := by
        apply mul_le_mul_of_nonneg_left ?_ (by positivity)
        exact (lt_two_zpow_log2 den).le
      _ = 2 ^ (num.log2 : Int) := by
        rw [← zpow_add₀ two_ne_zero]
        congr 1
        omega
      _ ≤ num := two_zpow_log2_le hNum
  have hBelow : (num : ℚ) / den < 2 ^ (guess + 1) := by
    rw [div_lt_iff₀ hDenQ]
    calc
      (num : ℚ) < 2 ^ ((num.log2 : Int) + 1) :=
        lt_two_zpow_log2 num
      _ = 2 ^ (guess + 1) * 2 ^ (den.log2 : Int) := by
        rw [← zpow_add₀ two_ne_zero]
        congr 1
        omega
      _ ≤ 2 ^ (guess + 1) * den := by
        apply mul_le_mul_of_nonneg_left ?_ (by positivity)
        exact two_zpow_log2_le hDen
  have hTest :
      (scaled num den (-guess)).1 <
          (scaled num den (-guess)).2 ↔
        (num : ℚ) / den < 2 ^ guess := by
    have hPositive :
        (0 : ℚ) < (scaled num den (-guess)).2 := by
      exact_mod_cast scaled_den_pos hDen num (-guess)
    rw [← Nat.cast_lt (α := ℚ), ← div_lt_one₀ hPositive,
      scaled_ratio, zpow_neg, ← div_eq_mul_inv,
      div_lt_one₀ (by positivity)]
  unfold binaryScale
  simp only
  split_ifs with hLess
  · refine ⟨hAbove, ?_⟩
    rw [sub_add_cancel]
    exact hTest.mp hLess
  · exact ⟨not_lt.mp fun h => hLess (hTest.mpr h), hBelow⟩

end Number

end Spreadsheet

------------------------------------------------------------
-- Intervals Around Floats
------------------------------------------------------------

namespace Spreadsheet

namespace Number

/- A mantissa and an exponent as positive floats have them. -/
structure IsBinary
    (mantissa : Nat)
    (exponent : Int) : Prop where
  positive : 0 < mantissa
  bounded : mantissa < 2 ^ 53
  least : Binary.leastExponent ≤ exponent
  greatest : exponent ≤ 971
  full : 2 ^ 52 ≤ mantissa ∨ exponent = Binary.leastExponent

/-
  How far the interval of a float reaches down, in units in
  the last place: the floats below a power of two are closer.
-/
def reach
    (mantissa : Nat)
    (exponent : Int) :
    ℚ :=
  if mantissa = 2 ^ 52 ∧ Binary.leastExponent < exponent then
    1 / 4
  else
    1 / 2

/-
  A quotient lies in the interval of a float, and not at one
  of its ends unless the mantissa is even.
-/
structure Near
    (mantissa : Nat)
    (exponent : Int)
    (q : ℚ) : Prop where
  low : (mantissa - reach mantissa exponent) * 2 ^ exponent ≤ q
  high : q ≤ (mantissa + 1 / 2) * 2 ^ exponent
  inside : mantissa % 2 = 0 ∨
    (mantissa - reach mantissa exponent) * 2 ^ exponent < q ∧
      q < (mantissa + 1 / 2) * 2 ^ exponent

theorem reach_le
    (mantissa : Nat)
    (exponent : Int) :
    reach mantissa exponent ≤ 1 / 2 := by
  unfold reach
  split_ifs
  · norm_num
  · exact le_refl _

theorem reach_pos
    (mantissa : Nat)
    (exponent : Int) :
    0 < reach mantissa exponent := by
  unfold reach
  split_ifs
  · norm_num
  · norm_num

variable {mantissa num den : Nat}
variable {exponent : Int}

/- What is near a positive float is positive. -/
theorem Near.pos
    {q : ℚ}
    (hNear : Near mantissa exponent q)
    (hPositive : 0 < mantissa) :
    0 < q := by
  have hReach := reach_le mantissa exponent
  have hMantissa : (1 : ℚ) ≤ mantissa := by
    exact_mod_cast hPositive
  have hLow :
      0 < (mantissa - reach mantissa exponent) *
        (2 : ℚ) ^ exponent :=
    mul_pos (by linarith) (by positivity)
  exact hLow.trans_le hNear.low

/- In units of the last place a near quotient is rounded. -/
theorem roundQuotient_of_near
    (hNear : Near mantissa exponent (num / den))
    (hDen : 0 < den) :
    let q := scaled num den (-exponent)
    roundQuotient q.1 q.2 = mantissa := by
  intro q
  have hReach := reach_le mantissa exponent
  have hPower : (0 : ℚ) < 2 ^ exponent := by positivity
  have hRatio :
      (q.1 : ℚ) / q.2 = num / den / 2 ^ exponent := by
    rw [scaled_ratio, zpow_neg, ← div_eq_mul_inv]
  have hLow := (le_div_iff₀ hPower).mpr hNear.low
  have hHigh := (div_le_iff₀ hPower).mpr hNear.high
  apply roundQuotient_eq (scaled_den_pos hDen num (-exponent))
  · rw [hRatio]
    linarith
  · rw [hRatio]
    exact hHigh
  · rw [hRatio]
    rcases hNear.inside with hEven | ⟨hAbove, hBelow⟩
    · exact .inl hEven
    · have hAbove := (lt_div_iff₀ hPower).mpr hAbove
      have hBelow := (div_lt_iff₀ hPower).mpr hBelow
      exact .inr ⟨by linarith, hBelow⟩

/- The bits of the nearest float, if its unit is known. -/
theorem nearestBits_eq
    {unit : Int}
    {rounded : Nat}
    (hUnit :
      max (binaryScale num den - 52) Binary.leastExponent =
        unit)
    (hRounded :
      roundQuotient (scaled num den (-unit)).1
        (scaled num den (-unit)).2 = rounded)
    (hFinite :
      (unit - Binary.leastExponent).toNat * 2 ^ 52 + rounded ≤
        infinityBits) :
    nearestBits num den =
      (unit - Binary.leastExponent).toNat * 2 ^ 52 +
        rounded := by
  unfold nearestBits
  simp only [hUnit, hRounded]
  exact Nat.min_eq_left hFinite

/- Below a power of two only this power is near. -/
theorem mantissa_of_below
    (hFull : 2 ^ 52 ≤ mantissa)
    {q : ℚ}
    (hNear : Near mantissa exponent q)
    (hBelow : q < 2 ^ (exponent + 52)) :
    mantissa = 2 ^ 52 := by
  by_contra hOther
  have hMore : (2 : ℚ) ^ 52 + 1 ≤ mantissa := by
    have hNext : 2 ^ 52 + 1 ≤ mantissa := by omega
    exact_mod_cast hNext
  have hReach := reach_le mantissa exponent
  have hPower : (0 : ℚ) < 2 ^ exponent := by positivity
  have hAbove :
      2 ^ 52 * (2 : ℚ) ^ exponent ≤
        (mantissa - reach mantissa exponent) * 2 ^ exponent :=
    mul_le_mul_of_nonneg_right (by linarith) hPower.le
  have hSame :
      (2 : ℚ) ^ (exponent + 52) = 2 ^ 52 * 2 ^ exponent := by
    rw [zpow_add₀ two_ne_zero, mul_comm]
    norm_num
  rw [hSame] at hBelow
  exact absurd (hAbove.trans hNear.low) (not_le.mpr hBelow)

/- A quotient near a float is below the next power of two. -/
theorem Near.lt_zpow
    {q : ℚ}
    (hNear : Near mantissa exponent q)
    (hBounded : mantissa < 2 ^ 53) :
    q < 2 ^ (exponent + 53) := by
  have hPower : (0 : ℚ) < 2 ^ exponent := by positivity
  have hMantissa : (mantissa : ℚ) + 1 ≤ 2 ^ 53 := by
    exact_mod_cast hBounded
  calc
    q ≤ (mantissa + 1 / 2) * 2 ^ exponent := hNear.high
    _ < 2 ^ 53 * 2 ^ exponent := by
      apply mul_lt_mul_of_pos_right ?_ hPower
      linarith
    _ = 2 ^ (exponent + 53) := by
      rw [zpow_add₀ two_ne_zero, mul_comm]
      norm_num

/-
  If the unit of a quotient is that of the float to which it
  is near, it is rounded to the mantissa.
-/
theorem nearestBits_of_full
    (hBinary : IsBinary mantissa exponent)
    (hNear : Near mantissa exponent (num / den))
    (hNum : 0 < num)
    (hDen : 0 < den)
    (hUnit :
      2 ^ (exponent + 52) ≤ (num : ℚ) / den ∨
        exponent = Binary.leastExponent)
    (hFinite :
      (exponent - Binary.leastExponent).toNat * 2 ^ 52 +
          mantissa ≤ infinityBits) :
    nearestBits num den =
      (exponent - Binary.leastExponent).toNat * 2 ^ 52 +
        mantissa := by
  rcases binaryScale_spec hNum hDen with ⟨hScale, hBeyond⟩
  have hLeast := hBinary.least
  have hScaleLt : binaryScale num den < exponent + 53 :=
    (zpow_lt_zpow_iff_right₀ one_lt_two).mp
      (hScale.trans_lt (hNear.lt_zpow hBinary.bounded))
  apply nearestBits_eq ?_ (roundQuotient_of_near hNear hDen)
    hFinite
  rcases hUnit with hFull | hLowest
  · have hScaleGt :
        exponent + 52 < binaryScale num den + 1 :=
      (zpow_lt_zpow_iff_right₀ one_lt_two).mp
        (hFull.trans_lt hBeyond)
    omega
  · omega

/- Just below a power of two the unit is half as great. -/
theorem binaryScale_of_below
    (hNum : 0 < num)
    (hDen : 0 < den)
    (hLow :
      (2 ^ 53 - 1 / 2) * 2 ^ (exponent - 1) ≤
        (num : ℚ) / den)
    (hBelow : (num : ℚ) / den < 2 ^ (exponent + 52)) :
    binaryScale num den = exponent + 51 := by
  rcases binaryScale_spec hNum hDen with ⟨hScale, hBeyond⟩
  have hAbove : (2 : ℚ) ^ (exponent + 51) ≤ num / den := by
    refine le_trans ?_ hLow
    have hSplit : exponent + 51 = exponent - 1 + 52 := by
      omega
    rw [hSplit, zpow_add₀ two_ne_zero, mul_comm]
    apply mul_le_mul_of_nonneg_right ?_ (by positivity)
    norm_num
  have hFirst : exponent + 51 < binaryScale num den + 1 :=
    (zpow_lt_zpow_iff_right₀ one_lt_two).mp
      (hAbove.trans_lt hBeyond)
  have hLast : binaryScale num den < exponent + 52 :=
    (zpow_lt_zpow_iff_right₀ one_lt_two).mp
      (hScale.trans_lt hBelow)
  omega

/- In this unit the quotient is rounded to the power. -/
theorem roundQuotient_of_below
    (hDen : 0 < den)
    (hLow :
      (2 ^ 53 - 1 / 2) * 2 ^ (exponent - 1) ≤
        (num : ℚ) / den)
    (hBelow : (num : ℚ) / den < 2 ^ (exponent + 52)) :
    let q := scaled num den (-(exponent - 1))
    roundQuotient q.1 q.2 = 2 ^ 53 := by
  intro q
  have hHalf : (0 : ℚ) < 2 ^ (exponent - 1) := by positivity
  have hRatio :
      (q.1 : ℚ) / q.2 = num / den / 2 ^ (exponent - 1) := by
    rw [scaled_ratio, zpow_neg, ← div_eq_mul_inv]
  have hEven : 2 ^ 53 % 2 = 0 := by norm_num
  apply roundQuotient_eq
    (scaled_den_pos hDen num (-(exponent - 1)))
  · rw [hRatio, le_div_iff₀ hHalf]
    exact_mod_cast hLow
  · rw [hRatio, div_le_iff₀ hHalf]
    refine hBelow.le.trans ?_
    have hSplit : exponent + 52 = exponent - 1 + 53 := by
      omega
    rw [hSplit, zpow_add₀ two_ne_zero, mul_comm]
    apply mul_le_mul_of_nonneg_right ?_ hHalf.le
    norm_num
  · exact .inl hEven

/- What is near a float rounds to the bits of this float. -/
theorem nearestBits_of_near
    (hBinary : IsBinary mantissa exponent)
    (hNear : Near mantissa exponent (num / den))
    (hNum : 0 < num)
    (hDen : 0 < den) :
    nearestBits num den =
      (exponent - Binary.leastExponent).toNat * 2 ^ 52 +
        mantissa := by
  have hLeastIs : Binary.leastExponent = -1074 := rfl
  have hInfinity : infinityBits = 2047 * 2 ^ 52 := rfl
  have hBounded := hBinary.bounded
  have hLeast := hBinary.least
  have hGreatest := hBinary.greatest
  have hFinite :
      (exponent - Binary.leastExponent).toNat * 2 ^ 52 +
          mantissa ≤ infinityBits := by
    omega
  by_cases hUnit :
      2 ^ (exponent + 52) ≤ (num : ℚ) / den ∨
        exponent = Binary.leastExponent
  · exact nearestBits_of_full hBinary hNear hNum hDen hUnit
      hFinite
  · -- Half the unit and twice the mantissa are the same bits.
    rw [not_or, not_le] at hUnit
    rcases hUnit with ⟨hBelow, hHigher⟩
    have hMantissa : mantissa = 2 ^ 52 :=
      mantissa_of_below (hBinary.full.resolve_right hHigher)
        hNear hBelow
    have hReach : reach mantissa exponent = 1 / 4 :=
      if_pos ⟨hMantissa,
        lt_of_le_of_ne hLeast (Ne.symm hHigher)⟩
    have hLow :
        (2 ^ 53 - 1 / 2) * 2 ^ (exponent - 1) ≤
          (num : ℚ) / den := by
      have hNearLow := hNear.low
      rw [hReach, hMantissa] at hNearLow
      refine le_trans (le_of_eq ?_) hNearLow
      rw [zpow_sub_one₀ two_ne_zero]
      push_cast
      ring
    have hScale :=
      binaryScale_of_below hNum hDen hLow hBelow
    have hUnit :
        max (binaryScale num den - 52) Binary.leastExponent =
          exponent - 1 := by
      omega
    have hBits :
        (exponent - 1 - Binary.leastExponent).toNat * 2 ^ 52 +
            2 ^ 53 =
          (exponent - Binary.leastExponent).toNat * 2 ^ 52 +
            mantissa := by
      omega
    have hSmall := hBits.le.trans hFinite
    exact (nearestBits_eq hUnit
      (roundQuotient_of_below hDen hLow hBelow) hSmall).trans
        hBits

end Number

end Spreadsheet
