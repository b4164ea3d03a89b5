import Mathlib.Data.Prod.Lex
import Spreadsheet.Proofs.Number.Equality

/-
  The order of floats.

  All floats but the undefined one are ordered by their rank:
  negative ones before zero and positive ones behind it, each
  by exponent and then by mantissa, between the infinite ones.
  Floats of one rank are equal floats; so are the two floats
  of zero, and nothing else is lost by the rank.  The sums
  and the halves of equal floats are equal, unless they are
  undefined.

  Key definitions include:
    * `Spreadsheet.Number.place`
    * `Spreadsheet.Number.rank`
    * `Spreadsheet.Number.Coincide`

  Main results:
    * `Spreadsheet.Number.lt_iff_rank`
    * `Spreadsheet.Number.beq_iff_rank`
    * `Spreadsheet.Number.add_coincides`
    * `Spreadsheet.Number.Coincide.half`
-/

------------------------------------------------------------
-- Places
------------------------------------------------------------

namespace Spreadsheet

namespace Number

open Float.Model (UnpackedFloat)
open Float.Model.UnpackedFloat (Sign)

/-
  The place of a float among all floats by its parts.  The
  undefined one has none and is put beside zero.
-/
def place :
    UnpackedFloat → ℤ ×ₗ ℤ ×ₗ ℤ
  | .infinity .negative => toLex (-2, toLex (0, 0))
  | .finite .negative mantissa exponent _ =>
      toLex (-1, toLex (-exponent, -mantissa))
  | .zero _ => toLex (0, toLex (0, 0))
  | .finite .positive mantissa exponent _ =>
      toLex (1, toLex (exponent, mantissa))
  | .infinity .positive => toLex (2, toLex (0, 0))
  | .notANumber => toLex (0, toLex (0, 0))

/- The minus sign comes before the plus sign. -/
theorem compare_signs :
    compare Sign.negative Sign.negative = .eq ∧
      compare Sign.negative Sign.positive = .lt ∧
      compare Sign.positive Sign.negative = .gt ∧
      compare Sign.positive Sign.positive = .eq := by
  decide

/- Exponents are compared before mantissas. -/
theorem compare_parts
    (m n : Nat)
    (e f : Int) :
    ((compare e f).then (compare m n) = .lt ↔
        e < f ∨ e = f ∧ m < n) ∧
      ((compare e f).then (compare m n) = .gt ↔
        f < e ∨ e = f ∧ n < m) ∧
      ((compare e f).then (compare m n) = .eq ↔
        e = f ∧ m = n) := by
  simp only [Ordering.then_eq_lt, Ordering.then_eq_gt,
    Ordering.then_eq_eq, compare_lt_iff_lt, compare_gt_iff_gt,
    compare_eq_iff_eq, and_self]

/- The parts of defined floats compare as their places do. -/
theorem compare_iff_place
    {a b : UnpackedFloat}
    (hA : a ≠ .notANumber)
    (hB : b ≠ .notANumber) :
    (a.compare b = some .lt ↔ place a < place b) ∧
      (a.compare b = some .eq ↔ place a = place b) := by
  rcases a with (_ | _) | _ | _ | ⟨_ | _, m, e, _⟩ <;>
    rcases b with (_ | _) | _ | _ | ⟨_ | _, n, f, _⟩ <;>
    simp_all [UnpackedFloat.compare, place,
      Prod.Lex.toLex_lt_toLex, compare_signs, compare_parts]

end Number

end Spreadsheet

------------------------------------------------------------
-- Ranks
------------------------------------------------------------

namespace Spreadsheet

namespace Number

/- The rank of a float in the order of floats. -/
def rank
    (x : Float) :
    ℤ ×ₗ ℤ ×ₗ ℤ :=
  place x.toModel.unpack

variable {x y : Float}

/- A float that is not undefined has parts that compare. -/
theorem unpack_ne_notANumber
    (hNumber : isNaN x = false) :
    x.toModel.unpack ≠ .notANumber := by
  intro hNone
  have hSelf : (order x x == some .eq) = true :=
    beq_self hNumber
  rw [order, hNone] at hSelf
  cases hSelf

/- One float is less than another if its rank is. -/
theorem lt_iff_rank
    (hX : isNaN x = false)
    (hY : isNaN y = false) :
    x < y ↔ rank x < rank y := by
  have hOrder : x < y ↔ order x y = some .lt := by
    have hHolds : decide (x < y) = (order x y == some .lt) :=
      holds_eq .lt x y
    rw [← decide_eq_true_eq (p := x < y), hHolds, beq_iff_eq]
  exact hOrder.trans
    (compare_iff_place (unpack_ne_notANumber hX)
      (unpack_ne_notANumber hY)).1

/- Two floats are equal if their ranks are. -/
theorem beq_iff_rank
    (hX : isNaN x = false)
    (hY : isNaN y = false) :
    (x == y) = true ↔ rank x = rank y := by
  have hOrder : (x == y) = true ↔ order x y = some .eq := by
    change (order x y == some .eq) = true ↔ _
    exact beq_iff_eq
  exact hOrder.trans
    (compare_iff_place (unpack_ne_notANumber hX)
      (unpack_ne_notANumber hY)).2

end Number

end Spreadsheet

------------------------------------------------------------
-- Operations On Equal Floats
------------------------------------------------------------

namespace Spreadsheet

namespace Number

open Float.Model (Format UnpackedFloat)

/-
  Two floats coincide if they are equal numbers, or the same
  float and be it the undefined one.
-/
def Coincide
    (x y : Float) : Prop :=
  x = y ∨ (x == y) = true

/- The parts of two floats are the same or both of zero. -/
def SameParts
    (a b : UnpackedFloat) : Prop :=
  a = b ∨ ∃ s t, a = .zero s ∧ b = .zero t

variable {x x' y y' : Float}
variable {a b c : UnpackedFloat}

/- Equal floats have the same parts. -/
theorem sameParts_of_beq
    (hEqual : (x == y) = true) :
    SameParts x.toModel.unpack y.toModel.unpack := by
  rcases Float.beq_iff_ne_nan_and_eq.mp hEqual with
    ⟨-, -, rfl | ⟨rfl, rfl⟩ | ⟨rfl, rfl⟩⟩
  · exact .inl rfl
  · exact .inr ⟨.positive, .negative, rfl, rfl⟩
  · exact .inr ⟨.negative, .positive, rfl, rfl⟩

theorem Coincide.sameParts
    (hSame : Coincide x y) :
    SameParts x.toModel.unpack y.toModel.unpack := by
  rcases hSame with rfl | hEqual
  · exact .inl rfl
  · exact sameParts_of_beq hEqual

/- Floats with the same parts coincide. -/
theorem SameParts.coincide
    (hSame : SameParts a b) :
    Coincide (.ofModel (.pack a)) (.ofModel (.pack b)) := by
  rcases hSame with rfl | ⟨s, t, rfl, rfl⟩
  · exact .inl rfl
  · right
    cases s with
    | positive => cases t <;> decide +kernel
    | negative => cases t <;> decide +kernel

theorem SameParts.trans
    (hFirst : SameParts a b)
    (hLast : SameParts b c) :
    SameParts a c := by
  rcases hFirst with rfl | ⟨s, t, rfl, rfl⟩
  · exact hLast
  · rcases hLast with rfl | ⟨-, u, -, rfl⟩
    · exact .inr ⟨s, t, rfl, rfl⟩
    · exact .inr ⟨s, u, rfl, rfl⟩

/- A summand of zero may have either sign. -/
theorem SameParts.add_left
    (hSame : SameParts a b)
    (format : Format)
    (c : UnpackedFloat) :
    SameParts (.add format a c) (.add format b c) := by
  rcases hSame with rfl | ⟨s, t, rfl, rfl⟩
  · exact .inl rfl
  · cases c with
    | notANumber => exact .inl rfl
    | infinity _ => exact .inl rfl
    | finite _ _ _ _ => exact .inl rfl
    | zero u =>
        exact .inr ⟨_, _, (apply_ite _ _ _ _).symm,
          (apply_ite _ _ _ _).symm⟩

theorem SameParts.add_right
    (hSame : SameParts a b)
    (format : Format)
    (c : UnpackedFloat) :
    SameParts (.add format c a) (.add format c b) := by
  rcases hSame with rfl | ⟨s, t, rfl, rfl⟩
  · exact .inl rfl
  · cases c with
    | notANumber => exact .inl rfl
    | infinity _ => exact .inl rfl
    | finite _ _ _ _ => exact .inl rfl
    | zero u =>
        exact .inr ⟨_, _, (apply_ite _ _ _ _).symm,
          (apply_ite _ _ _ _).symm⟩

/- A dividend of zero may have either sign. -/
theorem SameParts.div_left
    (hSame : SameParts a b)
    (format : Format)
    (c : UnpackedFloat) :
    SameParts (.div format a c) (.div format b c) := by
  rcases hSame with rfl | ⟨s, t, rfl, rfl⟩
  · exact .inl rfl
  · cases c with
    | notANumber => exact .inl rfl
    | infinity _ => exact .inr ⟨_, _, rfl, rfl⟩
    | finite _ _ _ _ => exact .inr ⟨_, _, rfl, rfl⟩
    | zero _ => exact .inl rfl

/- The sums of equal floats coincide. -/
theorem add_coincides
    (hX : (x == x') = true)
    (hY : (y == y') = true) :
    Coincide (x + y) (x' + y') := by
  have hLeft :=
    (sameParts_of_beq hX).add_left .binary64 y.toModel.unpack
  have hRight :=
    (sameParts_of_beq hY).add_right .binary64
      x'.toModel.unpack
  exact (hLeft.trans hRight).coincide

/- So do the halves of floats that coincide. -/
theorem Coincide.half
    (hSame : Coincide x y) :
    Coincide (x / 2.0) (y / 2.0) :=
  (hSame.sameParts.div_left .binary64
    (2.0 : Float).toModel.unpack).coincide

end Number

end Spreadsheet
