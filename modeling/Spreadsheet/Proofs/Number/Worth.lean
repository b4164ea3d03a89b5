import Spreadsheet.Proofs.Number.Order
import Spreadsheet.Proofs.Number.Remainder
import Spreadsheet.Proofs.Number.Whole

/-
  What floats are worth.

  The exact reading of a float says how it is unpacked, so
  finite floats are ordered by what they are worth.  A natural
  number below the limit is worth itself as a float.  A
  greater one is rounded, but never below the limit, and from
  some number on it is infinite.

  Key definitions include:
    * `Spreadsheet.Number.Binary.unpacked`
    * `Spreadsheet.Number.worth`
    * `Spreadsheet.Number.IsExact`
    * `Spreadsheet.Number.ReadsAs`

  Main results:
    * `Spreadsheet.Number.unpack_eq`
    * `Spreadsheet.Number.lt_iff_worth`
    * `Spreadsheet.Number.ofDecimal_natCast`
    * `Spreadsheet.Number.truncate?_ofInt`
    * `Spreadsheet.Number.not_ofInt_lt`
-/

------------------------------------------------------------
-- Unpacked Floats
------------------------------------------------------------

namespace Spreadsheet

namespace Number

open Float.Model (Format UnpackedFloat)
open Float.Model.UnpackedFloat

/- The sign that a minus sign stands for. -/
def signOf
    (negative : Bool) :
    Sign :=
  if negative then .negative else .positive

/- A float unpacked, from its exact reading. -/
def Binary.unpacked :
    Binary → UnpackedFloat
  | nan => .notANumber
  | infinite negative => .infinity (signOf negative)
  | finite negative mantissa exponent =>
      if hPositive : 0 < mantissa then
        .finite (signOf negative) mantissa exponent hPositive
      else
        .zero (signOf negative)

/- The sign, as the logic of floats has it. -/
theorem ofBitVec_unpackSign
    (bits : UInt64) :
    Sign.ofBitVec (@unpackSign .binary64 bits.toBitVec) =
      signOf (bits.toNat / 2 ^ 63 % 2 == 1) := by
  have hSign :
      (@unpackSign .binary64 bits.toBitVec).toNat =
        bits.toNat / 2 ^ 63 % 2 := by
    simp [unpackSign, Nat.shiftRight_eq_div_pow]
  rw [← hSign]
  generalize @unpackSign .binary64 bits.toBitVec = sign
  rcases BitVec.eq_zero_or_eq_one sign with rfl | rfl
  · rfl
  · rfl

/- A full mantissa has one bit more than its fraction. -/
theorem toNat_append_unpackMantissa
    (bits : UInt64) :
    (1#1 ++ @unpackMantissa .binary64 bits.toBitVec).toNat =
      2 ^ 52 + bits.toNat % 2 ^ 52 := by
  rw [BitVec.toNat_append,
    ← Nat.shiftLeft_add_eq_or_of_lt (BitVec.isLt _),
    toNat_unpackMantissa, Nat.shiftLeft_eq]
  rfl

/- Bits are unpacked as they are read. -/
theorem unpack_bits
    (bits : UInt64) :
    unpack .binary64 bits.toBitVec =
      (Binary.ofBits bits.toNat).unpacked := by
  have hBias : Format.binary64.exponentBias = 1023 := rfl
  have hLeast : Binary.leastExponent = -1074 := rfl
  have hTop :
      @unpackExponent .binary64 bits.toBitVec = -1#_ ↔
        bits.toNat / 2 ^ 52 % 2 ^ 11 = 2047 := by
    rw [← toNat_unpackExponent, ← BitVec.toNat_inj]
    rfl
  have hLow :
      @unpackExponent .binary64 bits.toBitVec = 0#_ ↔
        bits.toNat / 2 ^ 52 % 2 ^ 11 = 0 := by
    rw [← toNat_unpackExponent, ← BitVec.toNat_inj]
    rfl
  have hNone :
      @unpackMantissa .binary64 bits.toBitVec = 0#_ ↔
        bits.toNat % 2 ^ 52 = 0 := by
    rw [← toNat_unpackMantissa, ← BitVec.toNat_inj]
    rfl
  unfold unpack Binary.ofBits
  simp only [Nat.pow_eq, hTop, hLow, hNone,
    ofBitVec_unpackSign, toNat_unpackMantissa,
    toNat_unpackExponent, hBias]
  split_ifs
  · rfl
  · rfl
  · rw [Binary.unpacked, dif_neg (by omega)]
  · rw [Binary.unpacked, dif_pos (by omega)]
    congr 1
    omega
  · rw [Binary.unpacked, dif_pos (by omega)]
    congr 1
    · exact toNat_append_unpackMantissa bits
    · omega

/- A float is unpacked as it is read. -/
theorem unpack_eq
    (x : Float) :
    x.toModel.unpack = (Binary.ofFloat x).unpacked :=
  unpack_bits x.toBits

end Number

end Spreadsheet

------------------------------------------------------------
-- The Order Of Finite Floats
------------------------------------------------------------

namespace Spreadsheet

namespace Number

/- What a finite float is worth, with its sign. -/
def worth
    (x : Float) :
    ℚ :=
  match Binary.ofFloat x with
  | .finite negative mantissa exponent =>
      Binary.signed negative mantissa * 2 ^ exponent
  | _ => 0

variable {m n : Nat}
variable {e f : Int}
variable {x y : Float}

/- A greater exponent outweighs each mantissa. -/
theorem IsBinary.lt_of_parts
    (hBinary : IsBinary m e)
    (hOther : IsBinary n f)
    (hParts : e < f ∨ e = f ∧ m < n) :
    (m : ℚ) * 2 ^ e < n * 2 ^ f := by
  have hPower : (0 : ℚ) < 2 ^ e := by positivity
  rcases hParts with hLower | ⟨rfl, hLess⟩
  · have hFull : 2 ^ 52 ≤ n :=
      hOther.full.resolve_right
        (hBinary.least.trans_lt hLower).ne'
    have hFullQ : (2 : ℚ) ^ 52 ≤ n := by exact_mod_cast hFull
    have hBoundedQ : (m : ℚ) < 2 ^ 53 := by
      exact_mod_cast hBinary.bounded
    calc
      (m : ℚ) * 2 ^ e < 2 ^ 53 * 2 ^ e :=
        mul_lt_mul_of_pos_right hBoundedQ hPower
      _ = 2 ^ 52 * 2 ^ (e + 1) := by
        rw [zpow_add_one₀ two_ne_zero]
        ring
      _ ≤ 2 ^ 52 * 2 ^ f :=
        mul_le_mul_of_nonneg_left
          (zpow_le_zpow_right₀ one_le_two hLower)
          (by positivity)
      _ ≤ n * 2 ^ f :=
        mul_le_mul_of_nonneg_right hFullQ (by positivity)
  · have hLessQ : (m : ℚ) < n := by exact_mod_cast hLess
    exact mul_lt_mul_of_pos_right hLessQ hPower

/- Exponents are compared first, then mantissas. -/
theorem IsBinary.lt_iff_parts
    (hBinary : IsBinary m e)
    (hOther : IsBinary n f) :
    (m : ℚ) * 2 ^ e < n * 2 ^ f ↔
      e < f ∨ e = f ∧ m < n := by
  refine ⟨fun hLess => ?_, hBinary.lt_of_parts hOther⟩
  by_contra hNot
  rcases eq_or_ne (e, m) (f, n) with hSame | hApart
  · cases hSame
    exact lt_irrefl _ hLess
  · have hMore : f < e ∨ f = e ∧ n < m := by
      rw [ne_eq, Prod.mk.injEq] at hApart
      omega
    exact lt_asymm hLess (hOther.lt_of_parts hBinary hMore)

/- Finite parts have their place by what they are worth. -/
theorem place_unpacked_lt_iff
    {negative negative' : Bool}
    (hBinary : 0 < m → IsBinary m e)
    (hOther : 0 < n → IsBinary n f) :
    place (Binary.finite negative m e).unpacked <
        place (Binary.finite negative' n f).unpacked ↔
      (Binary.signed negative m : ℚ) * 2 ^ e <
        Binary.signed negative' n * 2 ^ f := by
  have hPower : ∀ exponent : Int, (0 : ℚ) < 2 ^ exponent :=
    fun exponent => by positivity
  have hWorth :
      ∀ {mantissa : Nat} (exponent : Int), 0 < mantissa →
        (0 : ℚ) < mantissa * 2 ^ exponent :=
    fun exponent hSome =>
      mul_pos (Nat.cast_pos.mpr hSome) (hPower exponent)
  -- Signs and zeros decide, unless both signs are the same.
  rcases Nat.eq_zero_or_pos m with rfl | hM <;>
    rcases Nat.eq_zero_or_pos n with rfl | hN
  · cases negative <;> cases negative' <;>
      simp [Binary.unpacked, place, Binary.signed]
  · have hY := hWorth f hN
    cases negative <;> cases negative' <;>
      simp [Binary.unpacked, place, Binary.signed, signOf,
        Prod.Lex.toLex_lt_toLex, hN, hY, hY.le]
  · have hX := hWorth e hM
    cases negative <;> cases negative' <;>
      simp [Binary.unpacked, place, Binary.signed, signOf,
        Prod.Lex.toLex_lt_toLex, hM, hX, hX.le]
  · have hX := hWorth e hM
    have hY := hWorth f hN
    have hLess := (hBinary hM).lt_iff_parts (hOther hN)
    have hMore := (hOther hN).lt_iff_parts (hBinary hM)
    cases negative <;> cases negative' <;>
      simp [Binary.unpacked, place, Binary.signed, signOf,
        Prod.Lex.toLex_lt_toLex, hM, hN, hLess, hMore, eq_comm]
    · linarith
    · linarith

/- A positive float is worth its mantissa at its exponent. -/
theorem worth_of_parts
    (hParts : Binary.ofFloat x = .finite false m e) :
    worth x = m * 2 ^ e := by
  rw [worth, hParts]
  rfl

/- A finite float has parts in the form of floats. -/
theorem exists_scaled
    (hX : isFinite x = true) :
    ∃ negative mantissa exponent,
      Binary.ofFloat x = .finite negative mantissa exponent ∧
        IsScaled mantissa exponent ∧
        exponent ≤ 971 ∧
        (0 < mantissa → IsBinary mantissa exponent) := by
  rcases parts_of_isFinite hX with
    ⟨negative, mantissa, exponent, hParts, hBounded, hLeast,
      hGreatest⟩
  rcases Binary.ofBits_finite x.toBits.toNat_lt hParts with
    ⟨-, hBinary, hZero⟩
  refine ⟨negative, mantissa, exponent, hParts,
    ⟨hBounded, hLeast, ?_⟩, hGreatest, hBinary⟩
  rcases Nat.eq_zero_or_pos mantissa with hNone | hSome
  · exact .inr (hZero hNone)
  · exact (hBinary hSome).full

/- A finite float is not undefined. -/
theorem isNaN_of_isFinite
    (hX : isFinite x = true) :
    isNaN x = false := by
  rcases exists_scaled hX with ⟨_, _, _, hParts, -⟩
  rw [isNaN, hParts]
  rfl

/- Finite floats are ordered by what they are worth. -/
theorem lt_iff_worth
    (hX : isFinite x = true)
    (hY : isFinite y = true) :
    x < y ↔ worth x < worth y := by
  rcases exists_scaled hX with
    ⟨_, _, _, hPartsX, -, -, hBinaryX⟩
  rcases exists_scaled hY with
    ⟨_, _, _, hPartsY, -, -, hBinaryY⟩
  rw [lt_iff_rank (isNaN_of_isFinite hX)
    (isNaN_of_isFinite hY), rank, rank, unpack_eq, unpack_eq]
  simpa only [worth, hPartsX, hPartsY] using
    place_unpacked_lt_iff hBinaryX hBinaryY

end Number

end Spreadsheet

------------------------------------------------------------
-- Natural Numbers As Floats
------------------------------------------------------------

namespace Spreadsheet

namespace Number

/- A natural number that is worth itself as a float. -/
def IsExact
    (count : Nat) : Prop :=
  worth (ofInt count) = count

/-
  A natural number is read from its float as a whole number:
  as itself if it is exact, and never from one side of the
  limit to the other.
-/
structure ReadsAs
    (count whole : Nat) : Prop where
  exact : IsExact count → whole = count
  great : 2 ^ 53 ≤ count → 2 ^ 53 ≤ whole

variable {mantissa mantissa' least count : Nat}
variable {exponent exponent' : Int}
variable {x : Float}

/- Of the natural numbers the whole part is the last below. -/
theorem le_wholePart_iff :
    count ≤ wholePart mantissa exponent ↔
      (count : ℚ) ≤ mantissa * 2 ^ exponent := by
  have hDen : (0 : ℚ) < 2 ^ (-exponent).toNat := by positivity
  rw [wholePart, Nat.le_div_iff_mul_le (by positivity),
    zpow_eq_quotient two_ne_zero, ← mul_div_assoc,
    le_div_iff₀ hDen]
  norm_cast

/- What is not above a quotient is not above what is near. -/
theorem Near.le_of_le
    {q : ℚ}
    (hNear : Near mantissa exponent q)
    (hScaled : IsScaled mantissa exponent)
    (hOther : IsScaled mantissa' exponent')
    (hLess : (mantissa' : ℚ) * 2 ^ exponent' ≤ q) :
    (mantissa' : ℚ) * 2 ^ exponent' ≤
      mantissa * 2 ^ exponent := by
  by_contra hMore
  have hClose := hNear.closest hScaled hOther
  rw [abs_of_nonneg (by linarith),
    abs_of_nonneg (by linarith)] at hClose
  linarith

/- A natural number is rounded with a plus sign. -/
theorem ofInt_natCast
    (count : Nat) :
    ofInt count = nearest false count 1 := by
  have hSign : ¬ (count : Int) < 0 := by omega
  rw [ofInt, decide_eq_false hSign, Int.natAbs_natCast]

/- The digits of a natural number are read as its float. -/
theorem ofDecimal_natCast
    (count : Nat) :
    ofDecimal false count 0 = ofInt count := by
  have hRounds := rounds_ofDecimal false ⟨count, 0⟩
  have hValue :
      Decimal.value ⟨count, 0⟩ = (count : ℚ) / (1 : Nat) := by
    rw [Decimal.value, zpow_zero, mul_one, Nat.cast_one,
      div_one]
  rw [hValue, rounds_iff_nearest Nat.one_pos] at hRounds
  rw [hRounds, ofInt_natCast]

/- A natural number is near its float, or it is infinite. -/
theorem ofInt_cases
    (count : Nat) :
    ((count : ℚ) < overflow ∧
        ∃ mantissa exponent,
          Binary.ofFloat (ofInt count) =
              .finite false mantissa exponent ∧
            IsScaled mantissa exponent ∧
            Near mantissa exponent count) ∨
      overflow ≤ (count : ℚ) ∧
        Binary.ofFloat (ofInt count) = .infinite false := by
  have hRounds := rounds_nearest false count Nat.one_pos
  rw [Nat.cast_one, div_one, ← ofInt_natCast] at hRounds
  rcases hRounds with
    ⟨mantissa, exponent, hParts, hNear⟩ | ⟨hParts, hGreat⟩
  · have hFinite : isFinite (ofInt count) = true := by
      rw [isFinite, hParts]
      rfl
    rcases exists_scaled hFinite with
      ⟨_, _, _, hSame, hScaled, hGreatest, -⟩
    rw [hParts] at hSame
    cases hSame
    exact .inl
      ⟨lt_overflow_of_near hScaled.bounded hNear hGreatest,
        mantissa, exponent, hParts, hScaled, hNear⟩
  · exact .inr ⟨hGreat, hParts⟩

/- Before the infinite ones a natural number is finite. -/
theorem ofInt_finite
    (hBelow : (count : ℚ) < overflow) :
    ∃ mantissa exponent,
      Binary.ofFloat (ofInt count) =
          .finite false mantissa exponent ∧
        IsScaled mantissa exponent ∧
        Near mantissa exponent count := by
  rcases ofInt_cases count with ⟨-, hFinite⟩ | ⟨hGreat, -⟩
  · exact hFinite
  · exact absurd hBelow (not_lt.mpr hGreat)

/- Numbers up to the limit are far from the infinite ones. -/
theorem natCast_lt_overflow
    (hFew : count ≤ 2 ^ 53) :
    (count : ℚ) < overflow := by
  have hFull : 2 ^ 52 < 2 ^ 53 := by decide
  have hLimit :=
    lt_overflow_of_near hFull (near_self (2 ^ 52) 1)
      (by decide)
  have hFewQ :
      (count : ℚ) ≤ (2 ^ 52 : Nat) * 2 ^ (1 : Int) := by
    norm_num
    exact_mod_cast hFew
  exact hFewQ.trans_lt hLimit

/- A number below the limit is near itself alone. -/
theorem Near.eq_natCast
    (hNear : Near mantissa exponent count)
    (hScaled : IsScaled mantissa exponent)
    (hFew : count < 2 ^ 53) :
    (mantissa : ℚ) * 2 ^ exponent = count := by
  have hUnit : (count : ℚ) = count * 2 ^ (0 : Int) := by
    rw [zpow_zero, mul_one]
  rw [hUnit] at hNear ⊢
  exact exact_of_near hFew (by decide) hScaled.full hNear

/- A number is not rounded below one that is a float. -/
theorem le_worth_ofInt
    (hBelow : (count : ℚ) < overflow)
    (hFew : least < 2 ^ 53)
    (hLess : least ≤ count) :
    (least : ℚ) ≤ worth (ofInt count) := by
  rcases ofInt_finite hBelow with
    ⟨mantissa, exponent, hParts, hScaled, hNear⟩
  rcases ofInt_finite (natCast_lt_overflow hFew.le) with
    ⟨mantissa', exponent', -, hScaled', hNear'⟩
  have hLeast := hNear'.eq_natCast hScaled' hFew
  have hLessQ : (least : ℚ) ≤ count := by exact_mod_cast hLess
  rw [worth_of_parts hParts]
  rw [← hLeast] at hLessQ ⊢
  exact hNear.le_of_le hScaled hScaled' hLessQ

/- A number is not less than a float that is not above it. -/
theorem not_ofInt_lt
    (hBelow : (count : ℚ) < overflow)
    (hX : isFinite x = true)
    (hWorth : worth x = least)
    (hFew : least < 2 ^ 53)
    (hLess : least ≤ count) :
    ¬ ofInt count < x := by
  have hFinite : isFinite (ofInt count) = true := by
    rcases ofInt_finite hBelow with ⟨_, _, hParts, -⟩
    rw [isFinite, hParts]
    rfl
  rw [lt_iff_worth hFinite hX, hWorth, not_lt]
  exact le_worth_ofInt hBelow hFew hLess

/- Each number below the limit is exact. -/
theorem isExact_of_lt
    (hFew : count < 2 ^ 53) :
    IsExact count := by
  rcases ofInt_finite (natCast_lt_overflow hFew.le) with
    ⟨mantissa, exponent, hParts, hScaled, hNear⟩
  rw [IsExact, worth_of_parts hParts]
  exact hNear.eq_natCast hScaled hFew

/- The whole part of a number as a float, if it is finite. -/
theorem truncate?_ofInt
    (hBelow : (count : ℚ) < overflow) :
    ∃ whole : Nat,
      truncate? (ofInt count) = some (whole : Int) ∧
        ReadsAs count whole := by
  rcases ofInt_finite hBelow with
    ⟨mantissa, exponent, hParts, hScaled, hNear⟩
  refine ⟨wholePart mantissa exponent, ?_, ?_, ?_⟩
  · rw [truncate?, hParts, truncate?_finite]
    rfl
  · intro hExact
    apply eq_of_forall_le_iff
    intro other
    rw [le_wholePart_iff, ← worth_of_parts hParts, hExact,
      Nat.cast_le]
  · -- The limit is a float, so nothing is rounded below it.
    intro hMany
    have hLimit : IsScaled (2 ^ 52) 1 :=
      ⟨by decide, by decide, .inl (le_refl _)⟩
    have hValue :
        ((2 ^ 53 : Nat) : ℚ) =
          (2 ^ 52 : Nat) * 2 ^ (1 : Int) := by
      norm_num
    have hManyQ : ((2 ^ 53 : Nat) : ℚ) ≤ count := by
      exact_mod_cast hMany
    rw [le_wholePart_iff]
    rw [hValue] at hManyQ ⊢
    exact hNear.le_of_le hScaled hLimit hManyQ

/- What is exact is finite. -/
theorem IsExact.lt_overflow
    (hExact : IsExact count) :
    (count : ℚ) < overflow := by
  rcases ofInt_cases count with ⟨hBelow, -⟩ | ⟨-, hParts⟩
  · exact hBelow
  · rw [IsExact, worth, hParts] at hExact
    rw [← hExact]
    exact_mod_cast natCast_lt_overflow (Nat.zero_le (2 ^ 53))

/- An infinite float has no whole part. -/
theorem truncate?_ofInt_of_overflow
    (hGreat : overflow ≤ (count : ℚ)) :
    truncate? (ofInt count) = none := by
  rcases ofInt_cases count with ⟨hBelow, -⟩ | ⟨-, hParts⟩
  · exact absurd hGreat (not_le.mpr hBelow)
  · rw [truncate?, hParts]
    rfl

end Number

end Spreadsheet
