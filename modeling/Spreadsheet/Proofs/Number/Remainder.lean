import Spreadsheet.Number.Operation
import Spreadsheet.Proofs.Number.Rounded

/-
  Remainders of floats.

  A remainder is computed on whole mantissas over one common
  exponent.  It has no more digits than the dividend or the
  divisor has, so it is a float and nothing is rounded: the
  dividend is a whole multiple of the divisor and the
  remainder, which has the sign of the dividend.

  Key definitions include:
    * `Spreadsheet.Number.size`
    * `Spreadsheet.Number.IsRemainder`

  Main results:
    * `Spreadsheet.Number.ofBinary_exact`
    * `Spreadsheet.Number.remainder_spec`
-/

------------------------------------------------------------
-- Floats Of Few Digits
------------------------------------------------------------

namespace Spreadsheet

namespace Number

variable {mantissa count : Nat}
variable {exponent unit : Int}

/- A mantissa at an exponent is near itself. -/
theorem near_self
    (mantissa : Nat)
    (exponent : Int) :
    Near mantissa exponent (mantissa * 2 ^ exponent) := by
  have hReach := reach_pos mantissa exponent
  have hPower : (0 : ℚ) < 2 ^ exponent := by positivity
  have hLow :
      (mantissa - reach mantissa exponent) * 2 ^ exponent <
        (mantissa : ℚ) * 2 ^ exponent :=
    mul_lt_mul_of_pos_right (by linarith) hPower
  have hHigh :
      (mantissa : ℚ) * 2 ^ exponent <
        (mantissa + 1 / 2) * 2 ^ exponent :=
    mul_lt_mul_of_pos_right (by linarith) hPower
  exact ⟨hLow.le, hHigh.le, .inr ⟨hLow, hHigh⟩⟩

/- What is rounded of few digits to a float is this float. -/
theorem exact_of_near
    (hFew : count < 2 ^ 53)
    (hUnit : Binary.leastExponent ≤ unit)
    (hFull :
      2 ^ 52 ≤ mantissa ∨ exponent = Binary.leastExponent)
    (hNear : Near mantissa exponent (count * 2 ^ unit)) :
    (mantissa : ℚ) * 2 ^ exponent = count * 2 ^ unit := by
  have hPower : (0 : ℚ) < 2 ^ exponent := by positivity
  have hReach := reach_le mantissa exponent
  rcases le_or_gt exponent unit with hFine | hCoarse
  · -- Both are whole numbers of units in the last place.
    obtain ⟨shift, hShift⟩ := Int.le.dest hFine
    have hWhole :
        (count : ℚ) * 2 ^ unit =
          (count * 2 ^ shift : ℕ) * 2 ^ exponent := by
      rw [← hShift, zpow_add₀ two_ne_zero, zpow_natCast]
      push_cast
      ring
    rw [hWhole] at hNear ⊢
    have hLow :=
      (mul_le_mul_iff_of_pos_right hPower).mp hNear.low
    have hHigh :=
      (mul_le_mul_iff_of_pos_right hPower).mp hNear.high
    have hAbove :
        (mantissa : ℚ) < (count * 2 ^ shift : ℕ) + 1 := by
      linarith
    have hBelow :
        ((count * 2 ^ shift : ℕ) : ℚ) < mantissa + 1 := by
      linarith
    have hAbove : mantissa < count * 2 ^ shift + 1 := by
      exact_mod_cast hAbove
    have hBelow : count * 2 ^ shift < mantissa + 1 := by
      exact_mod_cast hBelow
    have hSame : mantissa = count * 2 ^ shift := by omega
    rw [hSame]
  · -- A coarser unit has no room for so few digits.
    exfalso
    have hHigher : Binary.leastExponent < exponent :=
      hUnit.trans_lt hCoarse
    have hMantissa :=
      (le_sub_reach (hFull.resolve_right hHigher.ne')
        hHigher).1
    have hHalf : 2 * (2 : ℚ) ^ unit ≤ 2 ^ exponent := by
      rw [mul_comm, ← zpow_add_one₀ two_ne_zero]
      exact zpow_le_zpow_right₀ one_le_two hCoarse
    have hCount : (count : ℚ) ≤ 2 ^ 53 - 1 := by
      have hNext : (count : ℚ) + 1 ≤ 2 ^ 53 := by
        exact_mod_cast hFew
      linarith
    have hBelow :
        (count : ℚ) * 2 ^ unit <
          (mantissa - reach mantissa exponent) *
            2 ^ exponent := by
      calc
        (count : ℚ) * 2 ^ unit ≤ (2 ^ 53 - 1) * 2 ^ unit :=
          mul_le_mul_of_nonneg_right hCount (by positivity)
        _ = (2 ^ 52 - 1 / 2) * (2 * 2 ^ unit) := by ring
        _ ≤ (2 ^ 52 - 1 / 2) * 2 ^ exponent :=
          mul_le_mul_of_nonneg_left hHalf (by norm_num)
        _ < (mantissa - reach mantissa exponent) *
            2 ^ exponent :=
          mul_lt_mul_of_pos_right (by linarith) hPower
    exact absurd hNear.low (not_le.mpr hBelow)

/- Nothing is rounded of few digits at such an exponent. -/
theorem ofBinary_exact
    (negative : Bool)
    (hFew : count < 2 ^ 53)
    (hLeast : Binary.leastExponent ≤ unit)
    (hGreatest : unit ≤ 971) :
    ∃ mantissa exponent,
      Binary.ofFloat (ofBinary negative count unit) =
          .finite negative mantissa exponent ∧
        (mantissa : ℚ) * 2 ^ exponent = count * 2 ^ unit := by
  let q := scaled count 1 unit
  have hDen : 0 < q.2 := scaled_den_pos Nat.one_pos count unit
  have hRatio : (q.1 : ℚ) / q.2 = count * 2 ^ unit := by
    rw [scaled_ratio, Nat.cast_one, div_one]
  have hRounds := rounds_nearest negative q.1 hDen
  rw [hRatio] at hRounds
  rcases hRounds with
    ⟨mantissa, exponent, hFinite, hNear⟩ | ⟨-, hGreat⟩
  · rcases Binary.ofBits_finite (UInt64.toNat_lt _) hFinite with
      ⟨-, hBinary, hZero⟩
    refine ⟨mantissa, exponent, hFinite, ?_⟩
    rcases Nat.eq_zero_or_pos mantissa with hNone | hSome
    · exact exact_of_near hFew hLeast (.inr (hZero hNone))
        hNear
    · exact exact_of_near hFew hLeast (hBinary hSome).full
        hNear
  · have hWithin :=
      lt_overflow_of_near hFew (near_self count unit)
        hGreatest
    exact absurd hGreat (not_le.mpr hWithin)

end Number

end Spreadsheet

------------------------------------------------------------
-- Remainders
------------------------------------------------------------

namespace Spreadsheet

namespace Number

/- How great a finite float is without its sign. -/
def size
    (x : Float) :
    ℚ :=
  match Binary.ofFloat x with
  | .finite _ mantissa exponent => mantissa * 2 ^ exponent
  | _ => 0

/-
  A finite float with the sign of the dividend is what whole
  multiples of the divisor leave of the dividend.
-/
structure IsRemainder
    (dividend divisor remainder : Float) : Prop where
  finite : isFinite remainder = true
  sign : isNegative remainder = isNegative dividend
  below : size remainder < size divisor
  multiple :
    ∃ count : ℕ,
      size dividend = count * size divisor + size remainder

/- A mantissa in a lower unit. -/
theorem mantissa_shifted
    (mantissa : Nat)
    {unit exponent : Int}
    (hLower : unit ≤ exponent) :
    ((mantissa * 2 ^ (exponent - unit).toNat : ℕ) : ℚ) *
        2 ^ unit =
      mantissa * 2 ^ exponent := by
  obtain ⟨shift, hShift⟩ := Int.le.dest hLower
  have hNat : (exponent - unit).toNat = shift := by omega
  rw [hNat, ← hShift, zpow_add₀ two_ne_zero, zpow_natCast]
  push_cast
  ring

/- The remainder of mantissas is a float, and exact. -/
theorem remainderOf_exact
    (negative : Bool)
    {m n : Nat}
    {e f : Int}
    (hDividend : m < 2 ^ 53)
    (hDivisor : n < 2 ^ 53)
    (hPositive : 0 < n)
    (hLeastE : Binary.leastExponent ≤ e)
    (hLeastF : Binary.leastExponent ≤ f)
    (hGreatest : e ≤ 971) :
    ∃ mantissa exponent,
      Binary.ofFloat (remainderOf negative m e n f) =
          .finite negative mantissa exponent ∧
        (mantissa : ℚ) * 2 ^ exponent < n * 2 ^ f ∧
        ∃ count : ℕ,
          (m : ℚ) * 2 ^ e =
            count * (n * 2 ^ f) +
              mantissa * 2 ^ exponent := by
  let unit := min e f
  let num := m * 2 ^ (e - unit).toNat
  let den := n * 2 ^ (f - unit).toNat
  have hDen : 0 < den :=
    Nat.mul_pos hPositive (Nat.pow_pos Nat.two_pos)
  have hFew : num % den < 2 ^ 53 := by
    rcases min_choice e f with hUnit | hUnit
    · have hNum : num = m := by
        simp only [num, unit, hUnit, sub_self, Int.toNat_zero,
          pow_zero, mul_one]
      exact (Nat.mod_le num den).trans_lt (hNum ▸ hDividend)
    · have hSame : den = n := by
        simp only [den, unit, hUnit, sub_self, Int.toNat_zero,
          pow_zero, mul_one]
      exact (Nat.mod_lt num hDen).trans (hSame ▸ hDivisor)
  have hUnit : (0 : ℚ) < 2 ^ unit := by positivity
  rcases ofBinary_exact negative hFew
      (le_min hLeastE hLeastF)
      ((min_le_left e f).trans hGreatest) with
    ⟨mantissa, exponent, hFinite, hExact⟩
  refine ⟨mantissa, exponent, hFinite, ?_, num / den, ?_⟩
  · rw [hExact, ← mantissa_shifted n (min_le_right e f)]
    refine mul_lt_mul_of_pos_right ?_ hUnit
    exact_mod_cast Nat.mod_lt num hDen
  · have hParts :
        (num : ℚ) = (num / den : ℕ) * den + (num % den : ℕ) := by
      exact_mod_cast (Nat.div_add_mod' num den).symm
    rw [hExact, ← mantissa_shifted m (min_le_left e f),
      ← mantissa_shifted n (min_le_right e f)]
    calc
      (num : ℚ) * 2 ^ unit =
          ((num / den : ℕ) * den + (num % den : ℕ)) *
            2 ^ unit := by
        rw [← hParts]
      _ = (num / den : ℕ) * (den * 2 ^ unit) +
          (num % den : ℕ) * 2 ^ unit := by
        ring

/- What a finite float is made of. -/
theorem parts_of_isFinite
    {x : Float}
    (hFinite : isFinite x = true) :
    ∃ negative mantissa exponent,
      Binary.ofFloat x = .finite negative mantissa exponent ∧
        mantissa < 2 ^ 53 ∧
        Binary.leastExponent ≤ exponent ∧
        exponent ≤ 971 := by
  rw [isFinite] at hFinite
  cases hParts : Binary.ofFloat x with
  | nan => rw [hParts] at hFinite; cases hFinite
  | infinite negative => rw [hParts] at hFinite; cases hFinite
  | finite negative mantissa exponent =>
      refine ⟨negative, mantissa, exponent, rfl, ?_⟩
      rcases Binary.ofBits_finite x.toBits.toNat_lt hParts with
        ⟨-, hBinary, hZero⟩
      rcases Nat.eq_zero_or_pos mantissa with hNone | hSome
      · rw [hNone, hZero hNone]
        decide
      · have hBinary := hBinary hSome
        exact ⟨hBinary.bounded, hBinary.least,
          hBinary.greatest⟩

/- A float with an empty mantissa is zero. -/
theorem beq_zero_of_empty
    {x : Float}
    {negative : Bool}
    {exponent : Int}
    (hEmpty :
      Binary.ofFloat x = .finite negative 0 exponent) :
    (x == 0.0) = true := by
  rw [← nearest_zero hEmpty]
  cases negative with
  | false => decide +kernel
  | true => decide +kernel

/-
  The remainder of finite floats, the divisor not zero, is
  found, and it is exact.
-/
theorem remainder_spec
    {x y : Float}
    (hX : isFinite x = true)
    (hY : isFinite y = true)
    (hZero : (y == 0.0) = false) :
    ∃ z, remainder x y = .ok z ∧ IsRemainder x y z := by
  rcases parts_of_isFinite hX with
    ⟨negative, m, e, hPartsX, hM, hLeastE, hGreatest⟩
  rcases parts_of_isFinite hY with
    ⟨sign, n, f, hPartsY, hN, hLeastF, -⟩
  have hDivisor : n ≠ 0 := by
    rintro rfl
    rw [beq_zero_of_empty hPartsY] at hZero
    cases hZero
  rcases remainderOf_exact negative hM hN
      (Nat.pos_of_ne_zero hDivisor) hLeastE hLeastF
      hGreatest with
    ⟨mantissa, exponent, hFinite, hBelow, hMultiple⟩
  refine ⟨remainderOf negative m e n f, ?_, ?_⟩
  · simp only [remainder, hPartsX, hPartsY, hDivisor, if_false]
  · constructor
    · rw [isFinite, hFinite]
      rfl
    · rw [isNegative, isNegative, hFinite, hPartsX]
    · simpa only [size, hFinite, hPartsY] using hBelow
    · simpa only [size, hFinite, hPartsX, hPartsY] using
        hMultiple

end Number

end Spreadsheet
