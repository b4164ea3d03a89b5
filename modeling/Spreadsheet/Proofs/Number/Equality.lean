import Spreadsheet.Comparison
import Spreadsheet.Proofs.Number.Recovered

/-
  Numbers that are equal.

  Each float but the undefined one is equal to itself, and the
  two floats of zero are equal to each other.  No comparison
  tells equal floats apart.

  Key definitions include:
    * `Spreadsheet.Number.order`

  Main results:
    * `Spreadsheet.Number.beq_self`
    * `Spreadsheet.Number.beq_of_zero`
    * `Spreadsheet.Number.holds_of_beq`
-/

------------------------------------------------------------
-- Equal Floats
------------------------------------------------------------

namespace Spreadsheet

namespace Number

variable {x y : Float}

/- Each float but the undefined one is equal to itself. -/
theorem beq_self
    (hNumber : isNaN x = false) :
    (x == x) = true := by
  rw [Float.beq_self_iff]
  rintro rfl
  revert hNumber
  decide +kernel

/- Zero is equal to zero, whatever their signs. -/
theorem beq_of_zero
    {negative negative' : Bool}
    {exponent exponent' : Int}
    (hX : Binary.ofFloat x = .finite negative 0 exponent)
    (hY : Binary.ofFloat y = .finite negative' 0 exponent') :
    (x == y) = true := by
  have hSigns :
      ∀ negative negative',
        (nearest negative 0 1 == nearest negative' 0 1) =
          true := by
    decide +kernel
  rw [← nearest_zero hX, ← nearest_zero hY]
  exact hSigns negative negative'

end Number

end Spreadsheet

------------------------------------------------------------
-- Comparisons Of Equal Floats
------------------------------------------------------------

namespace Spreadsheet

namespace Number

open Float.Model (UnpackedFloat)
open Float.Model.UnpackedFloat (Sign)

/- How two floats compare, if at all. -/
def order
    (x y : Float) :
    Option Ordering :=
  x.toModel.unpack.compare y.toModel.unpack

/- Each comparison depends on the order alone. -/
theorem holds_eq
    (comparison : Comparison)
    (x y : Float) :
    comparison.holds x y =
      match comparison with
      | .eq => order x y == some .eq
      | .ne => !(order x y == some .eq)
      | .lt => order x y == some .lt
      | .gt => order y x == some .lt
      | .le => (order x y).any (·.isLE)
      | .ge => (order y x).any (·.isLE) := by
  cases comparison with
  | eq => rfl
  | ne => rfl
  | lt => exact Bool.decide_eq_true.trans Bool.decide_eq_true
  | gt => exact Bool.decide_eq_true.trans Bool.decide_eq_true
  | le => exact Bool.decide_eq_true.trans Bool.decide_eq_true
  | ge => exact Bool.decide_eq_true.trans Bool.decide_eq_true

/- Zero has the same order with either sign. -/
theorem compare_zero
    (other : UnpackedFloat)
    (sign sign' : Sign) :
    other.compare (.zero sign) = other.compare (.zero sign') ∧
      UnpackedFloat.compare (.zero sign) other =
        UnpackedFloat.compare (.zero sign') other := by
  cases other with
  | notANumber => exact ⟨rfl, rfl⟩
  | infinity s =>
      cases s with
      | positive => exact ⟨rfl, rfl⟩
      | negative => exact ⟨rfl, rfl⟩
  | zero s => exact ⟨rfl, rfl⟩
  | finite s m e h =>
      cases s with
      | positive => exact ⟨rfl, rfl⟩
      | negative => exact ⟨rfl, rfl⟩

/- Equal floats have the same order to others. -/
theorem order_of_beq
    {x y : Float}
    (hEqual : (x == y) = true)
    (z : Float) :
    order z x = order z y ∧ order x z = order y z := by
  rcases Float.beq_iff_ne_nan_and_eq.mp hEqual with
    ⟨-, -, rfl | ⟨rfl, rfl⟩ | ⟨rfl, rfl⟩⟩
  · exact ⟨rfl, rfl⟩
  · exact compare_zero z.toModel.unpack .positive .negative
  · exact compare_zero z.toModel.unpack .negative .positive

/- No comparison tells equal floats apart. -/
theorem holds_of_beq
    {x y : Float}
    (hEqual : (x == y) = true)
    (comparison : Comparison)
    (z : Float) :
    comparison.holds z x = comparison.holds z y := by
  rcases order_of_beq hEqual z with ⟨hRight, hLeft⟩
  rw [holds_eq, holds_eq, hRight, hLeft]

end Number

end Spreadsheet
