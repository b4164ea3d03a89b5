import Spreadsheet.Number.Layout
import Spreadsheet.Proofs.Number.Recovered
import Spreadsheet.Proofs.Text.Digits

/-
  Whole numbers in cells.

  A whole number below the limit is written as it is, without
  a search for its shortest decimal.  The search would find it
  too: units in the last place are not greater than one there,
  so no other whole number is near, and the search meets the
  grid of whole numbers before those of fractions.

  Key definitions include:
    * `Spreadsheet.Number.wholePart`

  Main results:
    * `Spreadsheet.Number.last_digit_strip`
    * `Spreadsheet.Number.value_shortest_of_whole`
    * `Spreadsheet.Number.toText_eq_write`
-/

------------------------------------------------------------
-- Decimals Without Zeros At Their End
------------------------------------------------------------

namespace Spreadsheet

namespace Number

/- The digits of a stripped decimal do not end in zero. -/
theorem last_digit_strip
    {d : Decimal}
    (hDigits : 0 < d.digits) :
    d.strip.digits % 10 ≠ 0 := by
  have hFrom :
      ∀ fuel d, 0 < d.digits → d.digits < 2 ^ (fuel + 1) →
        (Decimal.stripFrom fuel d).digits % 10 ≠ 0 := by
    intro fuel
    induction fuel with
    | zero =>
        intro d hSome hFew
        rw [Decimal.stripFrom]
        omega
    | succ fuel ih =>
        intro d hSome hFew
        rw [Decimal.stripFrom]
        split_ifs with hZero
        · apply ih
          · change 0 < d.digits / 10
            omega
          · change d.digits / 10 < _
            rw [pow_succ] at hFew
            omega
        · omega
  exact hFrom _ d hDigits Nat.lt_log2_self

/- Nor do those of the shortest decimal of a float. -/
theorem last_digit_shortest
    {mantissa : Nat}
    {exponent : Int}
    (hBinary : IsBinary mantissa exponent) :
    (shortest mantissa exponent).digits % 10 ≠ 0 := by
  have hNear := near_shortest hBinary
  have hPositive := hNear.pos hBinary.positive
  unfold shortest at hPositive ⊢
  rw [value_strip] at hPositive
  exact last_digit_strip (digits_pos_of_value_pos hPositive)

/- Of a whole number such a decimal has no negative power. -/
theorem exponent_of_whole
    {d : Decimal}
    {n : Nat}
    (hLast : d.digits % 10 ≠ 0)
    (hValue : d.value = n) :
    0 ≤ d.exponent ∧
      d.digits * 10 ^ d.exponent.toNat = n := by
  have hExponent : 0 ≤ d.exponent := by
    by_contra hNegative
    rcases Int.exists_eq_neg_ofNat
        (not_le.mp hNegative).le with
      ⟨count, hCount⟩
    have hSome : count ≠ 0 := by omega
    have hDigits : d.digits = n * 10 ^ count := by
      rw [Decimal.value, hCount, zpow_neg, zpow_natCast,
        ← div_eq_mul_inv,
        div_eq_iff (by positivity)] at hValue
      exact_mod_cast hValue
    rw [hDigits] at hLast
    exact hLast (Nat.mod_eq_zero_of_dvd
      (dvd_mul_of_dvd_right (dvd_pow_self 10 hSome) n))
  refine ⟨hExponent, ?_⟩
  rw [Decimal.value, ← Int.toNat_of_nonneg hExponent,
    zpow_natCast] at hValue
  exact_mod_cast hValue

end Number

end Spreadsheet

------------------------------------------------------------
-- Grids Of Whole Numbers
------------------------------------------------------------

namespace Spreadsheet

namespace Number

variable {mantissa n : Nat}
variable {exponent : Int}

/- What is found on a grid has the last place of this grid. -/
theorem exponent_of_onGrid?
    {interval : ReadBack}
    (hDen : 0 < interval.den)
    {place : Int}
    {d : Decimal}
    (hFound : interval.onGrid? place = some d) :
    d.exponent = place := by
  have hTried :
      ∀ digits, interval.at? place digits = some d →
        d.exponent = place := by
    intro digits hTry
    rw [ReadBack.at?, Option.ite_none_right_eq_some] at hTry
    rw [← Option.some.inj hTry.2]
  rcases onGrid?_eq interval hDen place with
    ⟨nearer, farther, -, hGrid⟩
  rw [hGrid, Option.orElse_eq_some] at hFound
  rcases hFound with hFirst | ⟨-, hSecond⟩
  · exact hTried nearer hFirst
  · exact hTried farther hSecond

/-
  A search that finds something on the grid of whole numbers
  does not go on to grids of fractions.
-/
theorem exponent_shortestFrom
    {interval : ReadBack}
    (hDen : 0 < interval.den)
    (hWhole : (interval.onGrid? 0).isSome = true)
    {fuel : Nat}
    {place : Int}
    (hPlace : 0 ≤ place)
    (hFuel : place ≤ fuel) :
    0 ≤ (interval.shortestFrom fuel place).exponent := by
  induction fuel generalizing place with
  | zero =>
      have hZero : place = 0 := by omega
      rcases Option.isSome_iff_exists.mp hWhole with
        ⟨d, hFound⟩
      rw [ReadBack.shortestFrom, hZero, hFound,
        Option.getD_some, exponent_of_onGrid? hDen hFound]
  | succ fuel ih =>
      rw [ReadBack.shortestFrom]
      cases hFound : interval.onGrid? place with
      | some d =>
          change 0 ≤ d.exponent
          rw [exponent_of_onGrid? hDen hFound]
          exact hPlace
      | none =>
          have hPositive : place ≠ 0 := by
            rintro rfl
            rw [hFound] at hWhole
            cases hWhole
          exact ih (by omega) (by omega)

/- A float below the limit has no greater unit than one. -/
theorem exponent_le_zero
    (hBinary : IsBinary mantissa exponent)
    (hWhole : (mantissa : ℚ) * 2 ^ exponent = n)
    (hLimit : n < exactLimit) :
    exponent ≤ 0 := by
  have hLeast : Binary.leastExponent = -1074 := rfl
  by_contra hPositive
  rcases Int.eq_ofNat_of_zero_le
      (not_le.mp hPositive).le with
    ⟨count, rfl⟩
  have hFull := hBinary.full.resolve_right (by omega)
  have hTwo : 2 ≤ 2 ^ count :=
    Nat.le_self_pow (by omega) 2
  have hProduct : mantissa * 2 ^ count = n := by
    rw [zpow_natCast] at hWhole
    exact_mod_cast hWhole
  have hMore := Nat.mul_le_mul hFull hTwo
  have hExact : exactLimit = 2 ^ 52 * 2 := rfl
  omega

/- Near such a float there is no other whole number. -/
theorem eq_of_near_whole
    (hBinary : IsBinary mantissa exponent)
    (hWhole : (mantissa : ℚ) * 2 ^ exponent = n)
    (hLimit : n < exactLimit)
    {other : Nat}
    (hNear : Near mantissa exponent other) :
    other = n := by
  have hUnit : (2 : ℚ) ^ exponent ≤ 1 :=
    zpow_le_one_of_nonpos₀ one_le_two
      (exponent_le_zero hBinary hWhole hLimit)
  have hReach := reach_le mantissa exponent
  have hPower : (0 : ℚ) < 2 ^ exponent := by positivity
  have hLow := hNear.low
  have hHigh := hNear.high
  have hScaled :=
    mul_le_mul_of_nonneg_right hReach hPower.le
  rw [sub_mul, hWhole] at hLow
  rw [add_mul, hWhole] at hHigh
  have hAbove : (n : ℚ) < other + 1 := by linarith
  have hBelow : (other : ℚ) < n + 1 := by linarith
  have hAbove : n < other + 1 := by exact_mod_cast hAbove
  have hBelow : other < n + 1 := by exact_mod_cast hBelow
  omega

/- On the grid of whole numbers it is found. -/
theorem onGrid?_zero_of_whole
    (hPositive : 0 < mantissa)
    (hWhole : (mantissa : ℚ) * 2 ^ exponent = n) :
    ((ReadBack.ofBinary mantissa exponent).onGrid? 0).isSome =
      true := by
  rcases onGrid?_eq (ReadBack.ofBinary mantissa exponent)
      (ofBinary_den_pos mantissa exponent) 0 with
    ⟨nearer, farther, hClose, hGrid⟩
  rw [(ofBinary_ratios hPositive exponent).2.1, hWhole,
    zpow_zero, mul_one, abs_le] at hClose
  have hAbove : (n : ℚ) < nearer + 1 := by linarith
  have hBelow : (nearer : ℚ) < n + 1 := by linarith
  have hAbove : n < nearer + 1 := by exact_mod_cast hAbove
  have hBelow : nearer < n + 1 := by exact_mod_cast hBelow
  have hSame : nearer = n := by omega
  have hNear :
      Near mantissa exponent (Decimal.value ⟨nearer, 0⟩) := by
    apply near_of_abs_lt
    have hReach := reach_pos mantissa exponent
    rw [Decimal.value, zpow_zero, mul_one, hSame, hWhole,
      sub_self, abs_zero]
    positivity
  have hFirst :
      (ReadBack.ofBinary mantissa exponent).at? 0 nearer =
        some ⟨nearer, 0⟩ :=
    if_pos ((accepts_decimal hPositive nearer 0).mpr hNear)
  rw [hGrid, hFirst]
  rfl

end Number

end Spreadsheet

------------------------------------------------------------
-- The Shortest Decimals Of Whole Numbers
------------------------------------------------------------

namespace Spreadsheet

namespace Number

variable {mantissa n : Nat}
variable {exponent : Int}

/- The places of a whole number below the limit. -/
theorem decimalPlace_of_whole
    {num den : Nat}
    (hNum : 0 < num)
    (hDen : 0 < den)
    (hWhole : (num : ℚ) / den = n)
    (hLimit : n < exactLimit) :
    1 ≤ decimalPlace num den ∧ decimalPlace num den ≤ 16 := by
  have hTen : (10 : ℚ) ≠ 0 := by norm_num
  have hMore : (1 : ℚ) < 10 := by norm_num
  rcases decimalPlace_spec hNum hDen with ⟨hLow, hHigh⟩
  have hPositive : (0 : ℚ) < n := by
    rw [← hWhole]
    positivity
  rw [hWhole] at hLow hHigh
  have hOne : (1 : ℚ) ≤ n := by exact_mod_cast hPositive
  have hLess : (n : ℚ) < 10 ^ (16 : Int) := by
    have hExact : exactLimit < 10 ^ 16 := by decide
    rw [zpow_ofNat]
    exact_mod_cast hLimit.trans hExact
  constructor
  · have hZero := hOne.trans_lt hHigh
    rw [← zpow_zero (10 : ℚ), zpow_lt_zpow_iff_right₀ hMore]
      at hZero
    omega
  · have hLast := hLow.trans_lt hLess
    rw [zpow_lt_zpow_iff_right₀ hMore] at hLast
    omega

/- The shortest decimal of a whole number is this number. -/
theorem value_shortest_of_whole
    (hBinary : IsBinary mantissa exponent)
    (hWhole : (mantissa : ℚ) * 2 ^ exponent = n)
    (hLimit : n < exactLimit) :
    (shortest mantissa exponent).value = n := by
  have hNear := near_shortest hBinary
  have hDen := ofBinary_den_pos mantissa exponent
  let interval := ReadBack.ofBinary mantissa exponent
  let place := decimalPlace interval.value interval.den
  have hPlace : 1 ≤ place ∧ place ≤ 16 :=
    decimalPlace_of_whole
      (ofBinary_value_pos hBinary.positive exponent) hDen
      ((ofBinary_ratios hBinary.positive exponent).2.1.trans
        hWhole) hLimit
  have hSearch :
      0 ≤ (interval.shortestFrom 16 (place - 1)).exponent := by
    apply exponent_shortestFrom hDen
      (onGrid?_zero_of_whole hBinary.positive hWhole)
    · omega
    · omega
  unfold shortest at hNear ⊢
  simp only [value_strip] at hNear ⊢
  generalize ReadBack.shortestFrom _ _ _ = d
    at hNear hSearch ⊢
  have hNatural :
      d.value = (d.digits * 10 ^ d.exponent.toNat : Nat) := by
    rw [Decimal.value, ← Int.toNat_of_nonneg hSearch,
      zpow_natCast]
    push_cast
    rfl
  rw [hNatural] at hNear ⊢
  rw [eq_of_near_whole hBinary hWhole hLimit hNear]

/- A whole number is laid out in a cell by its digits. -/
theorem writeDecimal_of_whole
    {d : Decimal}
    (hLast : d.digits % 10 ≠ 0)
    (hValue : d.value = n)
    (hLimit : n < exactLimit) :
    Layout.cell.writeDecimal d = Text.decimal n := by
  rcases exponent_of_whole hLast hValue with
    ⟨hExponent, hProduct⟩
  have hText :
      Text.decimal n =
        Text.decimal d.digits ++
          List.replicate d.exponent.toNat '0' := by
    rw [← hProduct]
    exact Text.decimal_mul_ten_pow (by omega) _
  have hLength : (Text.decimal n).length ≤ 16 :=
    (Nat.length_toDigits_le_iff (by decide) (by decide)).mpr
      (hLimit.trans (by decide))
  have hSome :=
    List.length_pos_of_ne_nil (Text.decimal_ne_nil n)
  rw [hText, List.length_append, List.length_replicate]
    at hLength hSome
  have hDecimal :
      Nat.toDigits 10 d.digits = Text.decimal d.digits := rfl
  have hFirst : Layout.cell.firstPlace = -5 := rfl
  have hLastPlace : Layout.cell.lastPlace = 21 := rfl
  have hMark : Layout.cell.wholeMark = [] := rfl
  unfold Layout.writeDecimal
  simp only [hDecimal, hFirst, hLastPlace, hMark]
  rw [if_neg (by omega), if_pos hExponent, List.append_nil,
    hText]

end Number

end Spreadsheet

------------------------------------------------------------
-- Whole Numbers As Text
------------------------------------------------------------

namespace Spreadsheet

namespace Number

/- The whole part of a mantissa at an exponent. -/
def wholePart
    (mantissa : Nat)
    (exponent : Int) :
    Nat :=
  mantissa * 2 ^ exponent.toNat / 2 ^ (-exponent).toNat

/- To truncate a float leaves its sign and its whole part. -/
theorem truncate?_finite
    (negative : Bool)
    (mantissa : Nat)
    (exponent : Int) :
    (Binary.finite negative mantissa exponent).truncate? =
      some (Binary.signed negative
        (wholePart mantissa exponent)) := by
  have hFloor :
      (Binary.finite false mantissa exponent).floor? =
        some (wholePart mantissa exponent : Int) := by
    have hSigned : Binary.signed false mantissa = mantissa :=
      rfl
    unfold Binary.floor? wholePart
    simp only [hSigned, Nat.pow_eq]
    split_ifs with hSign
    · have hZero : (-exponent).toNat = 0 := by omega
      rw [hZero, pow_zero, Nat.div_one]
      push_cast
      rfl
    · have hZero : exponent.toNat = 0 := by omega
      rw [hZero, pow_zero, Nat.mul_one]
      push_cast
      rfl
  cases negative with
  | false => exact hFloor
  | true =>
      have hOther :
          (Binary.finite true mantissa exponent).truncate? =
            (Binary.finite false mantissa
              exponent).floor?.map (- ·) := rfl
      rw [hOther, hFloor]
      rfl

/- A whole float is its whole part. -/
theorem wholePart_eq
    {negative : Bool}
    {mantissa : Nat}
    {exponent : Int}
    (hWhole :
      (Binary.finite negative mantissa exponent).isWhole =
        true) :
    (mantissa : ℚ) * 2 ^ exponent =
      wholePart mantissa exponent := by
  have hDvd :
      2 ^ (-exponent).toNat ∣
        mantissa * 2 ^ exponent.toNat := by
    simp only [Binary.isWhole, Nat.pow_eq, Bool.or_eq_true,
      decide_eq_true_eq, beq_iff_eq] at hWhole
    rcases hWhole with hSign | hRest
    · have hZero : (-exponent).toNat = 0 := by omega
      rw [hZero, pow_zero]
      exact one_dvd _
    · exact dvd_mul_of_dvd_left (Nat.dvd_of_mod_eq_zero hRest)
        _
  rw [wholePart, Nat.cast_div hDvd (by positivity),
    zpow_eq_quotient two_ne_zero]
  push_cast
  ring

/- A whole number of its own, with its sign. -/
theorem exactWhole?_eq_some
    {value : Binary}
    {n : Int}
    (hExact : value.exactWhole? = some n) :
    ∃ negative mantissa exponent,
      value = .finite negative mantissa exponent ∧
        (mantissa : ℚ) * 2 ^ exponent =
          wholePart mantissa exponent ∧
        wholePart mantissa exponent < exactLimit ∧
        n = Binary.signed negative
          (wholePart mantissa exponent) := by
  rw [Binary.exactWhole?, Option.ite_none_right_eq_some]
    at hExact
  rcases hExact with ⟨hWhole, hExact⟩
  cases value with
  | nan => cases hWhole
  | infinite negative => cases hWhole
  | finite negative mantissa exponent =>
      rw [truncate?_finite, Option.filter_eq_some_iff]
        at hExact
      rcases hExact with ⟨hSame, hLimit⟩
      cases hSame
      refine ⟨negative, mantissa, exponent, rfl,
        wholePart_eq hWhole, ?_, rfl⟩
      rw [decide_eq_true_eq] at hLimit
      cases negative with
      | false => simpa [Binary.signed] using hLimit
      | true => simpa [Binary.signed] using hLimit

/- A signed magnitude in plain notation. -/
theorem integer_signed
    (negative : Bool)
    {magnitude : Nat}
    (hSome : magnitude = 0 → negative = false) :
    Text.integer (Binary.signed negative magnitude) =
      Layout.withSign negative (Text.decimal magnitude) := by
  cases negative with
  | false => rfl
  | true =>
      cases magnitude with
      | zero => cases hSome rfl
      | succ magnitude => rfl

/-
  The whole numbers that are written as they are have the same
  text in the layout of cells.
-/
theorem integer_eq_write
    {value : Binary}
    {n : Int}
    (hBinary :
      ∀ {negative mantissa exponent},
        value = .finite negative mantissa exponent →
          0 < mantissa → IsBinary mantissa exponent)
    (hExact : value.exactWhole? = some n) :
    Text.integer n = Layout.cell.write value := by
  rcases exactWhole?_eq_some hExact with
    ⟨negative, mantissa, exponent, rfl, hWhole, hLimit, rfl⟩
  rcases Nat.eq_zero_or_pos mantissa with rfl | hPositive
  · have hNone : wholePart 0 exponent = 0 := by
      rw [wholePart, Nat.zero_mul, Nat.zero_div]
    have hZero : Binary.signed negative 0 = 0 := by
      cases negative with
      | false => rfl
      | true => rfl
    rw [hNone, hZero, Layout.write, if_pos rfl]
    have hUnsigned : Layout.cell.signedZero = false := rfl
    rw [hUnsigned, Bool.and_false]
    rfl
  · have hBinary := hBinary rfl hPositive
    have hValue := value_shortest_of_whole hBinary hWhole hLimit
    have hNone : wholePart mantissa exponent ≠ 0 := by
      intro hZero
      rw [hZero, Nat.cast_zero] at hWhole
      have hMantissa : (0 : ℚ) < mantissa := by
        exact_mod_cast hPositive
      have hProduct : (0 : ℚ) < mantissa * 2 ^ exponent := by
        positivity
      exact hProduct.ne' hWhole
    have hLast := last_digit_shortest hBinary
    rw [integer_signed negative (absurd · hNone),
      Layout.write, if_neg hPositive.ne',
      writeDecimal_of_whole hLast hValue hLimit]

/- Each number is written in the layout of cells. -/
theorem toText_eq_write
    (x : Float) :
    toText x = Layout.cell.write (Binary.ofFloat x) := by
  unfold toText
  simp only
  split
  · rename_i n hExact
    exact integer_eq_write
      (fun hFinite =>
        (Binary.ofBits_finite x.toBits.toNat_lt hFinite).2.1)
      hExact
  · rfl

end Number

end Spreadsheet
