import Spreadsheet.Proofs.Evaluation.Conditional
import Spreadsheet.Proofs.Number.Remainder

/-
  The two ways to ask for a remainder.

  The operator reads the divisor first and finds out whether
  it is zero, the function reads the dividend first.  Both
  show the same unless the dividend is no number and the
  divisor masks it: it is zero, or it fails in a way that is
  shown otherwise.

  Key definitions include:
    * `Spreadsheet.Value.Masks`
    * `Spreadsheet.Value.RemainderShown`
    * `Spreadsheet.Expr.operandValues`

  Main results:
    * `Spreadsheet.Value.shown_mod_iff`
    * `Spreadsheet.Value.toOption_mod`
    * `Spreadsheet.Value.remainderShown_mod`
    * `Spreadsheet.Expr.value_mod_of_operands`
-/

------------------------------------------------------------
-- Remainders Of Values
------------------------------------------------------------

namespace Spreadsheet

/- The function that is asked for a remainder of two values. -/
def Call.modOf
    (dividend divisor : Value) :
    Call :=
  ⟨.mod, [.scalar dividend, .scalar divisor]⟩

namespace Value

/-
  A dividend is no number, and that is not what a look at the
  divisor shows: it is zero, or its failure is shown otherwise.
-/
def Masks
    (divisor dividend : Value) : Prop :=
  ∃ failure,
    dividend.toNumber = .error failure ∧
      match divisor.toNumber with
      | .ok y => (y == 0.0) = true
      | .error other => other.display ≠ failure.display

/-
  What the remainder of two values shows: the code for a zero
  divisor, the code for what is no number, or the remainder,
  which is exact if both numbers are finite.
-/
structure RemainderShown
    (dividend divisor : Value)
    (shown : Except String Value) : Prop where
  zero : ∀ y,
    divisor.toNumber? = .ok (some y) → (y == 0.0) = true →
      shown = .error "#DIV/0!"
  noNumber :
    dividend.toNumber? = .ok none ∨
        divisor.toNumber? = .ok none →
      shown = .error "#VALUE!"
  remainder : ∀ x y,
    dividend.toNumber? = .ok (some x) →
    divisor.toNumber? = .ok (some y) →
    (y == 0.0) = false →
      shown =
        ((Number.remainder x y).map Value.number).mapError
          Failure.display
  exact : ∀ x y,
    dividend.toNumber? = .ok (some x) →
    divisor.toNumber? = .ok (some y) →
    Number.isFinite x = true → Number.isFinite y = true →
    (y == 0.0) = false →
      ∃ z, shown = .ok (.number z) ∧
        Number.IsRemainder x y z

variable {dividend divisor : Value}
variable {x y : Float}
variable {failure : Failure}

/- The number of a value that has one. -/
theorem toNumber_of_some
    (hNumber : dividend.toNumber? = .ok (some x)) :
    dividend.toNumber = .ok x := by
  rw [toNumber, hNumber]
  rfl

/- What is no number fails so that this is shown. -/
theorem toNumber_of_none
    (hNone : dividend.toNumber? = .ok none) :
    ∃ failure, dividend.toNumber = .error failure ∧
      failure.display = "#VALUE!" := by
  refine ⟨.notANumber (.scalar dividend), ?_, rfl⟩
  rw [toNumber, hNone]
  rfl

/- A value without a number is too great or is none. -/
theorem failure_of_toNumber
    (hFailure : dividend.toNumber = .error failure) :
    failure = .wholeTooGreat ∨
      failure = .notANumber (.scalar dividend) := by
  rw [toNumber] at hFailure
  cases hNumber : dividend.toNumber? with
  | error other =>
      rw [hNumber] at hFailure
      left
      rw [← Except.error.inj hFailure]
      exact dividend.toNumber?_failsOnly other hNumber
  | ok x? =>
      rw [hNumber] at hFailure
      cases x? with
      | none => exact .inr (Except.error.inj hFailure).symm
      | some x => cases hFailure

/- The function reads the dividend first. -/
theorem mod_of_error
    (hDividend : dividend.toNumber = .error failure) :
    (Call.modOf dividend divisor).mod = .error failure := by
  change (dividend.toNumber >>= _) = _
  rw [hDividend]
  rfl

/- It finds that the divisor is no number after that. -/
theorem mod_of_number_of_error
    (hDividend : dividend.toNumber = .ok x)
    (hDivisor : divisor.toNumber = .error failure) :
    (Call.modOf dividend divisor).mod = .error failure := by
  change (dividend.toNumber >>= fun x =>
    divisor.toNumber >>= _) = _
  rw [hDividend, hDivisor]
  rfl

theorem mod_of_numbers
    (hDividend : dividend.toNumber = .ok x)
    (hDivisor : divisor.toNumber = .ok y) :
    (Call.modOf dividend divisor).mod =
      if y == 0.0 then
        .error .modByZero
      else
        (Number.remainder x y).map Value.number := by
  change (dividend.toNumber >>= fun x =>
    divisor.toNumber >>= _) = _
  rw [hDividend, hDivisor]
  change (if (y == 0.0) = true then _ else _) = _
  split
  · rfl
  · cases Number.remainder x y <;> rfl

/- The operator reads the divisor first. -/
theorem apply_mod_of_error
    (hDivisor : divisor.toNumber = .error failure) :
    BinaryOp.apply .mod dividend divisor = .error failure := by
  change (divisor.toNumber >>= _) = _
  rw [hDivisor]
  rfl

/- It reads the dividend only if the divisor is not zero. -/
theorem apply_mod_of_number
    (hDivisor : divisor.toNumber = .ok y) :
    BinaryOp.apply .mod dividend divisor =
      if y == 0.0 then
        .error .remainderByZero
      else
        dividend.toNumber >>= fun x =>
          (Number.remainder x y).map Value.number := by
  change (divisor.toNumber >>= _) = _
  rw [hDivisor]
  change (if (y == 0.0) = true then _ else _) = _
  split
  · rfl
  · cases dividend.toNumber with
    | error failure => rfl
    | ok x =>
        change (Number.remainder x y >>= _) =
          (Number.remainder x y).map Value.number
        cases Number.remainder x y <;> rfl

end Value

end Spreadsheet

------------------------------------------------------------
-- Equal Remainders
------------------------------------------------------------

namespace Spreadsheet

namespace Value

variable {dividend divisor : Value}

/-
  The operator and the function show the same exactly if the
  divisor does not mask the dividend.
-/
theorem shown_mod_iff :
    (Call.modOf dividend divisor).mod.mapError
          Failure.display =
        (BinaryOp.apply .mod dividend divisor).mapError
          Failure.display ↔
      ¬divisor.Masks dividend := by
  cases hDividend : dividend.toNumber with
  | ok x =>
      have hSeen : ¬divisor.Masks dividend := by
        rintro ⟨failure, hFailure, -⟩
        rw [hDividend] at hFailure
        cases hFailure
      refine iff_of_true ?_ hSeen
      cases hDivisor : divisor.toNumber with
      | error failure =>
          rw [mod_of_number_of_error hDividend hDivisor,
            apply_mod_of_error hDivisor]
      | ok y =>
          rw [mod_of_numbers hDividend hDivisor,
            apply_mod_of_number hDivisor, hDividend]
          cases y == 0.0 <;> rfl
  | error failure =>
      have hMasks :
          divisor.Masks dividend ↔
            match divisor.toNumber with
            | .ok y => (y == 0.0) = true
            | .error other =>
                other.display ≠ failure.display := by
        simp only [Masks, hDividend, Except.error.injEq,
          exists_eq_left']
      rw [mod_of_error hDividend, hMasks]
      cases hDivisor : divisor.toNumber with
      | error other =>
          rw [apply_mod_of_error hDivisor]
          simp only [Except.mapError, Except.error.injEq,
            ne_eq, not_not]
          exact eq_comm
      | ok y =>
          rw [apply_mod_of_number hDivisor, hDividend]
          change _ ↔ ¬(y == 0.0) = true
          cases y == 0.0 with
          | false => exact iff_of_true rfl Bool.false_ne_true
          | true =>
              -- No value fails with the code for zero divisors.
              refine iff_of_false ?_ (not_not_intro rfl)
              intro hSame
              rcases failure_of_toNumber hDividend with
                rfl | rfl
              · have hCodes : Failure.genericCode = "#DIV/0!" :=
                  Except.error.inj hSame
                exact absurd hCodes (by decide)
              · have hCodes : "#VALUE!" = "#DIV/0!" :=
                  Except.error.inj hSame
                exact absurd hCodes (by decide)

/- They find the same remainder, if one of them finds any. -/
theorem toOption_mod :
    (Call.modOf dividend divisor).mod.toOption =
      (BinaryOp.apply .mod dividend divisor).toOption := by
  cases hDividend : dividend.toNumber with
  | error failure =>
      rw [mod_of_error hDividend]
      cases hDivisor : divisor.toNumber with
      | error other => rw [apply_mod_of_error hDivisor]; rfl
      | ok y =>
          rw [apply_mod_of_number hDivisor, hDividend]
          cases y == 0.0 <;> rfl
  | ok x =>
      cases hDivisor : divisor.toNumber with
      | error other =>
          rw [mod_of_number_of_error hDividend hDivisor,
            apply_mod_of_error hDivisor]
      | ok y =>
          rw [mod_of_numbers hDividend hDivisor,
            apply_mod_of_number hDivisor, hDividend]
          cases y == 0.0 <;> rfl

/-
  Where the divisor does not mask the dividend, the function
  shows the remainder of both.
-/
theorem remainderShown_mod
    (hSeen : ¬divisor.Masks dividend) :
    RemainderShown dividend divisor
      ((Call.modOf dividend divisor).mod.mapError
        Failure.display) := by
  constructor
  · intro y hDivisor hZero
    have hDivisor := toNumber_of_some hDivisor
    cases hDividend : dividend.toNumber with
    | error failure =>
        refine absurd ⟨failure, hDividend, ?_⟩ hSeen
        rw [hDivisor]
        exact hZero
    | ok x =>
        rw [mod_of_numbers hDividend hDivisor, if_pos hZero]
        rfl
  · intro hNone
    cases hDividend : dividend.toNumber with
    | error failure =>
        rw [mod_of_error hDividend]
        refine congrArg Except.error ?_
        rcases hNone with hNone | hNone
        · rcases toNumber_of_none hNone with
            ⟨other, hOther, hShown⟩
          rw [← hShown,
            Except.error.inj (hDividend.symm.trans hOther)]
        · rcases toNumber_of_none hNone with
            ⟨other, hOther, hShown⟩
          rw [← hShown]
          by_contra hDiffer
          refine hSeen ⟨failure, hDividend, ?_⟩
          rw [hOther]
          exact fun hSame => hDiffer hSame.symm
    | ok x =>
        rcases hNone with hNone | hNone
        · rcases toNumber_of_none hNone with ⟨other, hOther, -⟩
          cases hDividend.symm.trans hOther
        · rcases toNumber_of_none hNone with
            ⟨other, hOther, hShown⟩
          rw [mod_of_number_of_error hDividend hOther, ← hShown]
          rfl
  · intro x y hDividend hDivisor hZero
    rw [mod_of_numbers (toNumber_of_some hDividend)
      (toNumber_of_some hDivisor), hZero]
    rfl
  · intro x y hDividend hDivisor hX hY hZero
    rcases Number.remainder_spec hX hY hZero with
      ⟨z, hRemainder, hExact⟩
    refine ⟨z, ?_, hExact⟩
    rw [mod_of_numbers (toNumber_of_some hDividend)
      (toNumber_of_some hDivisor), hZero, hRemainder]
    rfl

end Value

end Spreadsheet

------------------------------------------------------------
-- Formulas With Remainders
------------------------------------------------------------

namespace Spreadsheet

namespace Expr

/- The values of two operands, from left to right. -/
def operandValues
    (dividend divisor : Expr) :
    Inquiry (Value × Value) := do
  let first ← dividend.value
  let second ← divisor.value
  return (first, second)

variable {dividend divisor : Expr}

/- An operator is applied to the values of its operands. -/
theorem value_binary_of_operands
    (op : BinaryOp)
    (dividend divisor : Expr) :
    (binary op dividend divisor).value =
      operandValues dividend divisor >>= fun pair =>
        .settled (op.deliver pair.1 pair.2) := by
  rw [value]
  simp only [operandValues, bind_assoc, pure_bind]

/- What is no area is an argument by its value. -/
theorem argumentValue_of_no_range
    {argument : Expr}
    (hArgument : ∀ written, argument ≠ .range written) :
    argument.argumentValue = .scalar <$> argument.value := by
  cases argument with
  | range written => exact absurd rfl (hArgument written)
  | _ => rfl

/- The function is called with the same values. -/
theorem value_mod_of_operands
    {name : String}
    (hName : Function.named? (upperName name) = some .mod)
    (hDividend : ∀ written, dividend ≠ .range written)
    (hDivisor : ∀ written, divisor ≠ .range written) :
    (call name [dividend, divisor]).value =
      operandValues dividend divisor >>= fun pair =>
        .settled (Call.modOf pair.1 pair.2).mod := by
  have hAnswer :
      ∀ first second : Value,
        Inquiry.ofAnswer
            (Call.ofArguments .mod
              [.scalar first, .scalar second]).delivered =
          .settled (Call.modOf first second).mod :=
    fun _ _ => rfl
  rw [value_call hName (by decide), argumentValues_pair]
  simp only [pairValues, operandValues,
    argumentValue_of_no_range hDividend,
    argumentValue_of_no_range hDivisor, bind_map_left,
    bind_assoc, pure_bind, hAnswer]

end Expr

end Spreadsheet
