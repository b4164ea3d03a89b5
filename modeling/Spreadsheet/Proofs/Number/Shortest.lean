import Mathlib.Algebra.Order.Field.Power
import Mathlib.Data.Option.Basic
import Spreadsheet.Number.Shortest
import Spreadsheet.Proofs.Number.Nearest

/-
  The shortest decimal is near.

  What an interval accepts is near its float, and a grid of 17
  digits is fine enough for one of its decimals to be accepted
  around every float.  So the search for the shortest decimal
  ends with one that is near.

  Key definitions include:
    * `Spreadsheet.Number.Decimal.value`
    * `Spreadsheet.Number.ReadBack.at?`
    * `Spreadsheet.Number.shortestDecimal`

  Main results:
    * `Spreadsheet.Number.accepts_iff`
    * `Spreadsheet.Number.onGrid?_eq`
    * `Spreadsheet.Number.near_shortest`
-/

------------------------------------------------------------
-- Decimals As Quotients
------------------------------------------------------------

namespace Spreadsheet

namespace Number

/- What a decimal denotes. -/
def Decimal.value
    (d : Decimal) :
    ℚ :=
  d.digits * 10 ^ d.exponent

theorem decimalQuotient_ratio
    (digits : Nat)
    (exponent : Int) :
    ((decimalQuotient digits exponent).1 : ℚ) /
        (decimalQuotient digits exponent).2 =
      digits * 10 ^ exponent := by
  rw [zpow_eq_quotient (by norm_num), decimalQuotient]
  simp only [Nat.pow_eq]
  push_cast
  ring

theorem decimalQuotient_den_pos
    (digits : Nat)
    (exponent : Int) :
    0 < (decimalQuotient digits exponent).2 :=
  Nat.pow_pos (by decide)

/- A positive decimal has digits. -/
theorem digits_pos_of_value_pos
    {d : Decimal}
    (hPositive : 0 < d.value) :
    0 < d.digits := by
  rw [Nat.pos_iff_ne_zero]
  intro hNone
  rw [Decimal.value, hNone, Nat.cast_zero, zero_mul]
    at hPositive
  exact lt_irrefl _ hPositive

/- To drop zeros at the end leaves a decimal its value. -/
theorem value_strip
    (d : Decimal) :
    d.strip.value = d.value := by
  have hFrom :
      ∀ fuel d, (Decimal.stripFrom fuel d).value = d.value := by
    intro fuel
    induction fuel with
    | zero => exact fun _ => rfl
    | succ fuel ih =>
        intro d
        rw [Decimal.stripFrom]
        split_ifs with hZero
        · have hDigits : d.digits = d.digits / 10 * 10 := by
            omega
          rw [ih, Decimal.value, Decimal.value,
            zpow_add_one₀ (by norm_num)]
          conv_rhs => rw [hDigits]
          push_cast
          ring
        · rfl
  exact hFrom _ d

end Number

end Spreadsheet

------------------------------------------------------------
-- Accepted Quotients
------------------------------------------------------------

namespace Spreadsheet

namespace Number

variable {mantissa : Nat}
variable {exponent : Int}

/- Quarters of units over the denominator of an interval. -/
theorem quarters_ratio
    (quarters : Nat)
    (exponent : Int) :
    ((quarters * Nat.pow 2 exponent.toNat : Nat) : ℚ) /
        (4 * Nat.pow 2 (-exponent).toNat : Nat) =
      quarters / 4 * 2 ^ exponent := by
  rw [zpow_eq_quotient two_ne_zero]
  simp only [Nat.pow_eq]
  push_cast
  ring

/- The ends and the middle of the interval of a float. -/
theorem ofBinary_ratios
    (hPositive : 0 < mantissa)
    (exponent : Int) :
    let interval := ReadBack.ofBinary mantissa exponent
    (interval.low : ℚ) / interval.den =
        (mantissa - reach mantissa exponent) * 2 ^ exponent ∧
      (interval.value : ℚ) / interval.den =
        mantissa * 2 ^ exponent ∧
      (interval.high : ℚ) / interval.den =
        (mantissa + 1 / 2) * 2 ^ exponent := by
  intro interval
  refine ⟨?_, ?_, ?_⟩
  · simp only [interval, ReadBack.ofBinary]
    rw [quarters_ratio]
    congr 1
    have hSplit :
        Nat.pow 2 52 = 2 ^ 52 := rfl
    rw [hSplit, reach]
    split_ifs with hPower
    · rw [Nat.cast_sub (by omega)]
      push_cast
      ring
    · rw [Nat.cast_sub (by omega)]
      push_cast
      ring
  · simp only [interval, ReadBack.ofBinary]
    rw [quarters_ratio]
    push_cast
    ring
  · simp only [interval, ReadBack.ofBinary]
    rw [quarters_ratio]
    push_cast
    ring

theorem ofBinary_den_pos
    (mantissa : Nat)
    (exponent : Int) :
    0 < (ReadBack.ofBinary mantissa exponent).den :=
  Nat.mul_pos (by decide) (Nat.pow_pos (by decide))

theorem ofBinary_value_pos
    (hPositive : 0 < mantissa)
    (exponent : Int) :
    0 < (ReadBack.ofBinary mantissa exponent).value :=
  Nat.mul_pos (Nat.mul_pos (by decide) hPositive)
    (Nat.pow_pos (by decide))

/- What the interval of a float accepts is near to it. -/
theorem accepts_iff
    (hPositive : 0 < mantissa)
    {num den : Nat}
    (hDen : 0 < den) :
    (ReadBack.ofBinary mantissa exponent).accepts num den =
        true ↔
      Near mantissa exponent (num / den) := by
  rcases ofBinary_ratios hPositive exponent with
    ⟨hLow, -, hHigh⟩
  have hDenQ : (0 : ℚ) < den := by exact_mod_cast hDen
  have hUnitQ :
      (0 : ℚ) < (ReadBack.ofBinary mantissa exponent).den := by
    exact_mod_cast ofBinary_den_pos mantissa exponent
  have hClosed :
      (ReadBack.ofBinary mantissa exponent).closed =
        (mantissa % 2 == 0) := rfl
  generalize ReadBack.ofBinary mantissa exponent = interval at *
  have hAbove :
      interval.low * den < num * interval.den ↔
        (mantissa - reach mantissa exponent) * 2 ^ exponent <
          (num : ℚ) / den := by
    rw [← hLow, div_lt_div_iff₀ hUnitQ hDenQ]
    exact_mod_cast Iff.rfl
  have hBelow :
      num * interval.den < interval.high * den ↔
        (num : ℚ) / den <
          (mantissa + 1 / 2) * 2 ^ exponent := by
    rw [← hHigh, div_lt_div_iff₀ hDenQ hUnitQ]
    exact_mod_cast Iff.rfl
  have hFrom :
      interval.low * den ≤ num * interval.den ↔
        (mantissa - reach mantissa exponent) * 2 ^ exponent ≤
          (num : ℚ) / den := by
    rw [← hLow, div_le_div_iff₀ hUnitQ hDenQ]
    exact_mod_cast Iff.rfl
  have hTo :
      num * interval.den ≤ interval.high * den ↔
        (num : ℚ) / den ≤
          (mantissa + 1 / 2) * 2 ^ exponent := by
    rw [← hHigh, div_le_div_iff₀ hDenQ hUnitQ]
    exact_mod_cast Iff.rfl
  unfold ReadBack.accepts
  rw [hClosed]
  by_cases hEven : mantissa % 2 = 0
  · simp only [hEven, beq_self_eq_true, if_true,
      Bool.and_eq_true, decide_eq_true_eq, hFrom, hTo]
    constructor
    · exact fun ⟨hAt, hUpTo⟩ => ⟨hAt, hUpTo, .inl hEven⟩
    · exact fun hNear => ⟨hNear.low, hNear.high⟩
  · simp only [beq_iff_eq, hEven, if_false, Bool.and_eq_true,
      decide_eq_true_eq, hAbove, hBelow]
    constructor
    · exact fun ⟨hOver, hUnder⟩ =>
        ⟨hOver.le, hUnder.le, .inr ⟨hOver, hUnder⟩⟩
    · exact fun hNear => hNear.inside.resolve_left hEven

/- A decimal is accepted if it is near. -/
theorem accepts_decimal
    (hPositive : 0 < mantissa)
    (digits : Nat)
    (place : Int) :
    let q := decimalQuotient digits place
    (ReadBack.ofBinary mantissa exponent).accepts q.1 q.2 =
        true ↔
      Near mantissa exponent
        (Decimal.value ⟨digits, place⟩) := by
  intro q
  rw [accepts_iff hPositive (decimalQuotient_den_pos _ _),
    decimalQuotient_ratio]
  rfl

/- What is strictly inside the reach of a float is near it. -/
theorem near_of_abs_lt
    {q : ℚ}
    (hDistance :
      |q - mantissa * 2 ^ exponent| <
        reach mantissa exponent * 2 ^ exponent) :
    Near mantissa exponent q := by
  have hReach := reach_le mantissa exponent
  have hPower : (0 : ℚ) < 2 ^ exponent := by positivity
  rcases abs_lt.mp hDistance with ⟨hLow, hHigh⟩
  have hAbove :
      (mantissa - reach mantissa exponent) * 2 ^ exponent <
        q := by
    linarith
  have hBelow : q < (mantissa + 1 / 2) * 2 ^ exponent := by
    have hMore :=
      mul_le_mul_of_nonneg_right hReach hPower.le
    linarith
  exact ⟨hAbove.le, hBelow.le, .inr ⟨hAbove, hBelow⟩⟩

end Number

end Spreadsheet

------------------------------------------------------------
-- Grids Of Decimals
------------------------------------------------------------

namespace Spreadsheet

namespace Number

/- A decimal with a given last place, if it is accepted. -/
def ReadBack.at?
    (interval : ReadBack)
    (place : Int)
    (digits : Nat) :
    Option Decimal :=
  let q := decimalQuotient digits place
  if interval.accepts q.1 q.2 then
    some ⟨digits, place⟩
  else
    none

/- A quotient is its whole part and a part below one. -/
theorem quotient_split
    (num : Nat)
    {den : Nat}
    (hDen : 0 < den) :
    (num : ℚ) / den =
      (num / den : Nat) + (num % den : Nat) / (den : ℚ) := by
  have hDenQ : (den : ℚ) ≠ 0 := by exact_mod_cast hDen.ne'
  have hWhole :
      (num : ℚ) =
        den * (num / den : Nat) + (num % den : Nat) := by
    exact_mod_cast (Nat.div_add_mod num den).symm
  rw [div_eq_iff hDenQ, add_mul, div_mul_cancel₀ _ hDenQ,
    mul_comm]
  exact hWhole

theorem below_close
    {num den : Nat}
    (hDen : 0 < den)
    (hNear : 2 * (num % den) ≤ den) :
    |((num / den : Nat) : ℚ) - num / den| ≤ 1 / 2 := by
  have hDenQ : (0 : ℚ) < den := by exact_mod_cast hDen
  have hNearQ : (2 * (num % den : Nat) : ℚ) ≤ den := by
    exact_mod_cast hNear
  have hHalf : ((num % den : Nat) : ℚ) / den ≤ 1 / 2 := by
    rw [div_le_iff₀ hDenQ]
    linarith
  have hSign : (0 : ℚ) ≤ (num % den : Nat) / (den : ℚ) :=
    div_nonneg (Nat.cast_nonneg _) hDenQ.le
  rw [quotient_split num hDen, sub_add_cancel_left, abs_neg,
    abs_of_nonneg hSign]
  exact hHalf

theorem above_close
    {num den : Nat}
    (hDen : 0 < den)
    (hFar : den ≤ 2 * (num % den)) :
    |((num / den + 1 : Nat) : ℚ) - num / den| ≤ 1 / 2 := by
  have hDenQ : (0 : ℚ) < den := by exact_mod_cast hDen
  have hFarQ : (den : ℚ) ≤ 2 * (num % den : Nat) := by
    exact_mod_cast hFar
  have hHalf : 1 / 2 ≤ ((num % den : Nat) : ℚ) / den := by
    rw [le_div_iff₀ hDenQ]
    linarith
  have hOne : ((num % den : Nat) : ℚ) / den < 1 := by
    rw [div_lt_one₀ hDenQ]
    exact_mod_cast Nat.mod_lt num hDen
  rw [quotient_split num hDen, Nat.cast_succ,
    add_sub_add_left_eq_sub, abs_of_pos (sub_pos.mpr hOne)]
  linarith

/-
  Of the two decimals that are tried on a grid the first is
  not farther than half a step from the value.
-/
theorem onGrid?_eq
    (interval : ReadBack)
    (hDen : 0 < interval.den)
    (place : Int) :
    ∃ nearer farther : Nat,
      |nearer * (10 : ℚ) ^ place -
          interval.value / interval.den| ≤ 10 ^ place / 2 ∧
        interval.onGrid? place =
          (interval.at? place nearer <|>
            interval.at? place farther) := by
  have hStep : (0 : ℚ) < 10 ^ place := by positivity
  let unit := decimalQuotient 1 place
  let num := interval.value * unit.2
  let den := interval.den * unit.1
  have hUnit : (unit.1 : ℚ) / unit.2 = 10 ^ place := by
    rw [decimalQuotient_ratio, Nat.cast_one, one_mul]
  have hGridDen : 0 < den :=
    Nat.mul_pos hDen
      (Nat.mul_pos (by decide) (Nat.pow_pos (by decide)))
  have hRatio :
      (num : ℚ) / den * 10 ^ place =
        interval.value / interval.den := by
    have hFirst : (unit.1 : ℚ) ≠ 0 := by
      exact_mod_cast (Nat.pos_of_mul_pos_left hGridDen).ne'
    have hSecond : (unit.2 : ℚ) ≠ 0 := by
      exact_mod_cast (decimalQuotient_den_pos 1 place).ne'
    have hDenQ : (interval.den : ℚ) ≠ 0 := by
      exact_mod_cast hDen.ne'
    rw [← hUnit]
    simp only [num, den]
    push_cast
    field_simp
  have hClose :
      ∀ n : Nat, |(n : ℚ) - num / den| ≤ 1 / 2 →
        |n * (10 : ℚ) ^ place -
          interval.value / interval.den| ≤ 10 ^ place / 2 := by
    intro n hHalf
    rw [← hRatio, ← sub_mul, abs_mul, abs_of_pos hStep]
    have hScaled :=
      mul_le_mul_of_nonneg_right hHalf hStep.le
    linarith
  by_cases hFirst :
      (2 * (num % den) < den ||
        (2 * (num % den) == den && num / den % 2 == 0)) = true
  · refine ⟨num / den, num / den + 1,
      hClose _ (below_close hGridDen ?_), if_pos hFirst⟩
    simp only [Bool.or_eq_true, Bool.and_eq_true,
      decide_eq_true_eq, beq_iff_eq] at hFirst
    omega
  · refine ⟨num / den + 1, num / den,
      hClose _ (above_close hGridDen ?_), if_neg hFirst⟩
    simp only [Bool.or_eq_true, Bool.and_eq_true,
      decide_eq_true_eq, beq_iff_eq, not_or] at hFirst
    omega

variable {mantissa : Nat}
variable {exponent : Int}

/- What is found on a grid is near. -/
theorem near_of_onGrid?
    (hPositive : 0 < mantissa)
    {place : Int}
    {d : Decimal}
    (hFound :
      (ReadBack.ofBinary mantissa exponent).onGrid? place =
        some d) :
    Near mantissa exponent d.value := by
  have hTried :
      ∀ digits,
        (ReadBack.ofBinary mantissa exponent).at? place digits =
            some d →
          Near mantissa exponent d.value := by
    intro digits hTry
    rw [ReadBack.at?, Option.ite_none_right_eq_some] at hTry
    rcases hTry with ⟨hAccepts, hSame⟩
    rw [← Option.some.inj hSame]
    exact (accepts_decimal hPositive digits place).mp hAccepts
  rcases onGrid?_eq (ReadBack.ofBinary mantissa exponent)
      (ofBinary_den_pos mantissa exponent) place with
    ⟨nearer, farther, -, hGrid⟩
  rw [hGrid, Option.orElse_eq_some] at hFound
  rcases hFound with hFirst | ⟨-, hSecond⟩
  · exact hTried nearer hFirst
  · exact hTried farther hSecond

/- On a grid with small steps something is found. -/
theorem onGrid?_of_fine
    (hPositive : 0 < mantissa)
    {place : Int}
    (hFine :
      (10 : ℚ) ^ place / 2 <
        reach mantissa exponent * 2 ^ exponent) :
    ∃ d,
      (ReadBack.ofBinary mantissa exponent).onGrid? place =
        some d := by
  rcases onGrid?_eq (ReadBack.ofBinary mantissa exponent)
      (ofBinary_den_pos mantissa exponent) place with
    ⟨nearer, farther, hClose, hGrid⟩
  rw [(ofBinary_ratios hPositive exponent).2.1] at hClose
  have hNear :
      Near mantissa exponent
        (Decimal.value ⟨nearer, place⟩) :=
    near_of_abs_lt (hClose.trans_lt hFine)
  have hFirst :
      (ReadBack.ofBinary mantissa exponent).at? place nearer =
        some ⟨nearer, place⟩ :=
    if_pos ((accepts_decimal hPositive nearer place).mpr hNear)
  rw [hGrid, hFirst]
  exact ⟨_, rfl⟩

end Number

end Spreadsheet

------------------------------------------------------------
-- The Search
------------------------------------------------------------

namespace Spreadsheet

namespace Number

variable {mantissa : Nat}
variable {exponent : Int}

/-
  A search that comes to a grid with small steps ends with a
  decimal that is near.
-/
theorem near_shortestFrom
    (hPositive : 0 < mantissa)
    {fuel : Nat}
    {place : Int}
    (hFine :
      (10 : ℚ) ^ (place - fuel) / 2 <
        reach mantissa exponent * 2 ^ exponent) :
    Near mantissa exponent
      ((ReadBack.ofBinary mantissa exponent).shortestFrom fuel
        place).value := by
  induction fuel generalizing place with
  | zero =>
      rw [Nat.cast_zero, sub_zero] at hFine
      rcases onGrid?_of_fine hPositive hFine with ⟨d, hFound⟩
      rw [ReadBack.shortestFrom, hFound, Option.getD_some]
      exact near_of_onGrid? hPositive hFound
  | succ fuel ih =>
      rw [ReadBack.shortestFrom]
      cases hFound :
          (ReadBack.ofBinary mantissa exponent).onGrid? place with
      | some d => exact near_of_onGrid? hPositive hFound
      | none =>
          apply ih
          have hSame :
              place - 1 - (fuel : Int) =
                place - (fuel + 1 : Nat) := by
            omega
          rw [hSame]
          exact hFine

/- A number has as many digits as powers of ten are in it. -/
theorem ten_zpow_le
    {n : Nat}
    (hPositive : 0 < n) :
    (10 : ℚ) ^ ((digitCount n : Int) - 1) ≤ n := by
  rcases Nat.exists_eq_succ_of_ne_zero
      (Nat.length_toDigits_pos (b := 10) (n := n)).ne' with
    ⟨count, hCount⟩
  have hPower : 10 ^ count ≤ n := by
    rcases Nat.eq_zero_or_pos count with rfl | hSome
    · exact hPositive
    · by_contra hLess
      have hShort :=
        (Nat.length_toDigits_le_iff (by decide) hSome).mpr
          (Nat.lt_of_not_le hLess)
      omega
  rw [digitCount, hCount, Nat.cast_succ, add_sub_cancel_right,
    zpow_natCast]
  exact_mod_cast hPower

theorem lt_ten_zpow
    (n : Nat) :
    (n : ℚ) < 10 ^ (digitCount n : Int) := by
  have hPower : n < 10 ^ digitCount n :=
    (Nat.length_toDigits_le_iff (by decide)
      Nat.length_toDigits_pos).mp (le_refl _)
  rw [zpow_natCast]
  exact_mod_cast hPower

/- A decimal is within the powers of ten of its digits. -/
theorem value_bounds
    {d : Decimal}
    (hDigits : 0 < d.digits) :
    (10 : ℚ) ^ (d.exponent + digitCount d.digits - 1) ≤
        d.value ∧
      d.value < 10 ^ (d.exponent + digitCount d.digits) := by
  have hPower : (0 : ℚ) < 10 ^ d.exponent := by positivity
  constructor
  · rw [Decimal.value, add_comm, add_sub_right_comm,
      zpow_add₀ (by norm_num)]
    exact mul_le_mul_of_nonneg_right (ten_zpow_le hDigits)
      hPower.le
  · rw [Decimal.value, add_comm, zpow_add₀ (by norm_num)]
    exact mul_lt_mul_of_pos_right (lt_ten_zpow d.digits) hPower

/-
  The first digit of a quotient is at its decimal place, with
  no digit before it.
-/
theorem decimalPlace_spec
    {num den : Nat}
    (hNum : 0 < num)
    (hDen : 0 < den) :
    (10 : ℚ) ^ (decimalPlace num den - 1) ≤ num / den ∧
      (num : ℚ) / den < 10 ^ decimalPlace num den := by
  have hDenQ : (0 : ℚ) < den := by exact_mod_cast hDen
  let guess : Int := (digitCount num : Int) - digitCount den
  have hAbove : (10 : ℚ) ^ (guess - 1) ≤ num / den := by
    rw [le_div_iff₀ hDenQ]
    calc
      (10 : ℚ) ^ (guess - 1) * den ≤
          10 ^ (guess - 1) * 10 ^ (digitCount den : Int) := by
        apply mul_le_mul_of_nonneg_left ?_ (by positivity)
        exact (lt_ten_zpow den).le
      _ = 10 ^ ((digitCount num : Int) - 1) := by
        rw [← zpow_add₀ (by norm_num)]
        congr 1
        omega
      _ ≤ num := ten_zpow_le hNum
  have hBelow : (num : ℚ) / den < 10 ^ (guess + 1) := by
    rw [div_lt_iff₀ hDenQ]
    calc
      (num : ℚ) < 10 ^ (digitCount num : Int) :=
        lt_ten_zpow num
      _ = 10 ^ (guess + 1) *
          10 ^ ((digitCount den : Int) - 1) := by
        rw [← zpow_add₀ (by norm_num)]
        congr 1
        omega
      _ ≤ 10 ^ (guess + 1) * den := by
        apply mul_le_mul_of_nonneg_left ?_ (by positivity)
        exact ten_zpow_le hDen
  have hPlace :
      decimalPlace num den =
        if (decimalQuotient 1 guess).1 * den ≤
            num * (decimalQuotient 1 guess).2 then
          guess + 1
        else
          guess := rfl
  have hRatio := decimalQuotient_ratio 1 guess
  have hUnit : (0 : ℚ) < (decimalQuotient 1 guess).2 := by
    exact_mod_cast decimalQuotient_den_pos 1 guess
  rw [Nat.cast_one, one_mul] at hRatio
  have hTest :
      (decimalQuotient 1 guess).1 * den ≤
          num * (decimalQuotient 1 guess).2 ↔
        (10 : ℚ) ^ guess ≤ num / den := by
    rw [← hRatio, div_le_div_iff₀ hUnit hDenQ]
    exact_mod_cast Iff.rfl
  rw [hPlace]
  split_ifs with hMore
  · rw [add_sub_cancel_right]
    exact ⟨hTest.mp hMore, hBelow⟩
  · exact ⟨hAbove, not_le.mp fun h => hMore (hTest.mpr h)⟩

/- Grids of 17 digits have small steps around a float. -/
theorem fine_of_le
    (hBinary : IsBinary mantissa exponent)
    {place : Int}
    (hPlace :
      (10 : ℚ) ^ (place - 1) ≤ mantissa * 2 ^ exponent) :
    (10 : ℚ) ^ (place - 1 - (16 : Nat)) / 2 <
      reach mantissa exponent * 2 ^ exponent := by
  have hPower : (0 : ℚ) < 2 ^ exponent := by positivity
  have hUnits :
      (mantissa : ℚ) / (2 * 10 ^ 16) <
        reach mantissa exponent := by
    unfold reach
    split_ifs with hLeast
    · rw [hLeast.1]
      norm_num
    · have hBounded : (mantissa : ℚ) < 2 ^ 53 := by
        exact_mod_cast hBinary.bounded
      rw [div_lt_iff₀ (by norm_num)]
      refine hBounded.trans ?_
      norm_num
  calc
    (10 : ℚ) ^ (place - 1 - (16 : Nat)) / 2 =
        10 ^ (place - 1) / (2 * 10 ^ 16) := by
      rw [zpow_sub₀ (by norm_num), zpow_natCast]
      ring
    _ ≤ mantissa * 2 ^ exponent / (2 * 10 ^ 16) :=
      div_le_div_of_nonneg_right hPlace (by positivity)
    _ = mantissa / (2 * 10 ^ 16) * 2 ^ exponent := by
      ring
    _ < reach mantissa exponent * 2 ^ exponent :=
      mul_lt_mul_of_pos_right hUnits hPower

/- The shortest decimal of a float is near this float. -/
theorem near_shortest
    (hBinary : IsBinary mantissa exponent) :
    Near mantissa exponent
      (shortest mantissa exponent).value := by
  have hPlace :=
    (decimalPlace_spec
      (ofBinary_value_pos hBinary.positive exponent)
      (ofBinary_den_pos mantissa exponent)).1
  rw [(ofBinary_ratios hBinary.positive exponent).2.1]
    at hPlace
  unfold shortest
  rw [value_strip]
  exact near_shortestFrom hBinary.positive
    (fine_of_le hBinary hPlace)

/- The decimal of a mantissa at an exponent. -/
def shortestDecimal
    (mantissa : Nat)
    (exponent : Int) :
    Decimal :=
  if mantissa = 0 then
    ⟨0, 0⟩
  else
    shortest mantissa exponent

end Number

end Spreadsheet
