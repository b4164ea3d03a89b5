import Mathlib.Data.List.Basic
import Spreadsheet.Proofs.Criteria.Comparison
import Spreadsheet.Proofs.Function.Failure
import Spreadsheet.Proofs.Number.Rounded

/-
  Conditional means.

  The mean of the targets of the values that satisfy a
  criterion is their sum over the count of these values: both
  match the same values, one by one, and the count is zero
  only if there are none.  The targets are found by the places
  of the values, and a target that is missing or no number
  counts as zero.

  Key definitions include:
    * `Spreadsheet.amount`
    * `Spreadsheet.pairedAmounts`
    * `Spreadsheet.Call.paired`
    * `Spreadsheet.Call.meanOf`
    * `Spreadsheet.Call.counted`

  Main results:
    * `Spreadsheet.matchingTargets_eq`
    * `Spreadsheet.countMatching_of_matchingTargets`
    * `Spreadsheet.Call.meanOf_paired_eq`
    * `Spreadsheet.Call.meanOf_paired_iff`
-/

------------------------------------------------------------
-- Targets By Places
------------------------------------------------------------

namespace Spreadsheet

/-
  What a target counts as: zero if it is missing or is no
  number.
-/
def amount
    (target : Option Value) :
    Float :=
  match target.map Value.toNumber? with
  | some (.ok (some x)) => x
  | _ => 0.0

/-
  The amounts of the targets at the places of the values that
  satisfy.
-/
def pairedAmounts
    (verdict : Value → Bool)
    (values targets : List Value) :
    List Float :=
  (values.zipIdx.filter fun placed => verdict placed.1).map
    fun placed => amount targets[placed.2]?

/- The first value is paired with the first target. -/
theorem pairedAmounts_cons
    (verdict : Value → Bool)
    (value : Value)
    (values targets : List Value) :
    pairedAmounts verdict (value :: values) targets =
      (if verdict value then [amount targets.head?] else []) ++
        pairedAmounts verdict values (targets.drop 1) := by
  have hRest :
      ((values.zipIdx 1).filter
          fun placed => verdict placed.1).map
            (fun placed => amount targets[placed.2]?) =
        pairedAmounts verdict values (targets.drop 1) := by
    have hShift :
        values.zipIdx 1 =
          values.zipIdx.map fun placed =>
            (placed.1, placed.2 + 1) :=
      (List.map_snd_add_zipIdx_eq_zipIdx (n := 1)
        (k := 0)).symm
    rw [pairedAmounts, hShift, List.filter_map, List.map_map]
    simp only [Function.comp_def, List.getElem?_drop,
      Nat.add_comm]
  rw [pairedAmounts, List.zipIdx_cons, List.filter_cons]
  cases verdict value with
  | false => exact hRest
  | true =>
      rw [if_pos rfl, if_pos rfl, List.map_cons,
        List.singleton_append, ← hRest, List.head?_eq_getElem?]

/- A target whose number can be asked for counts its amount. -/
theorem targetNumber_eq
    {target : Option Value}
    (hTarget : ∀ value ∈ target, value.Coerces) :
    targetNumber target = .ok (amount target) := by
  cases target with
  | none => rfl
  | some value =>
      rcases hTarget value rfl with ⟨x?, hNumber⟩
      rw [targetNumber, amount, Option.map_some, hNumber]
      cases x? with
      | none => rfl
      | some x => rfl

/- Values are matched with the targets at their places. -/
theorem matchingTargets_eq
    {criterion : String}
    {verdict : Value → Bool}
    {values targets : List Value}
    (hVerdict :
      ∀ value ∈ values,
        value.satisfies criterion = .ok (verdict value))
    (hTargets : ∀ target ∈ targets, target.Coerces) :
    matchingTargets criterion values targets =
      .ok (pairedAmounts verdict values targets) := by
  induction values generalizing targets with
  | nil => rfl
  | cons value values ih =>
      rw [List.forall_mem_cons] at hVerdict
      have hHead :
          targetNumber targets.head? =
            .ok (amount targets.head?) :=
        targetNumber_eq fun target hTarget =>
          hTargets target (List.mem_of_head? hTarget)
      have hRest :=
        @ih (targets.drop 1) hVerdict.2
          fun target hTarget =>
            hTargets target (List.mem_of_mem_drop hTarget)
      rw [matchingTargets, hVerdict.1, hHead, hRest,
        pairedAmounts_cons]
      cases verdict value with
      | false => rfl
      | true => rfl

end Spreadsheet

------------------------------------------------------------
-- Counts Of Targets
------------------------------------------------------------

namespace Spreadsheet

variable {criterion : String}

/- As many values are counted as targets are found. -/
theorem countMatching_of_matchingTargets
    {values targets : List Value}
    {xs : List Float}
    (hTargets :
      matchingTargets criterion values targets = .ok xs) :
    countMatching criterion values = .ok xs.length := by
  induction values generalizing targets xs with
  | nil =>
      cases hTargets
      rfl
  | cons value values ih =>
      rw [matchingTargets] at hTargets
      rw [countMatching]
      cases hHere : value.satisfies criterion with
      | error failure =>
          rw [hHere] at hTargets
          cases hTargets
      | ok here =>
          rw [hHere] at hTargets
          cases here with
          | false =>
              rw [ih hTargets]
              rfl
          | true =>
              cases hHead : targetNumber targets.head? with
              | error failure =>
                  rw [hHead] at hTargets
                  cases hTargets
              | ok x =>
                  cases hRest :
                      matchingTargets criterion values
                        (targets.drop 1) with
                  | error failure =>
                      rw [hHead, hRest] at hTargets
                      cases hTargets
                  | ok rest =>
                      rw [hHead, hRest] at hTargets
                      cases hTargets
                      rw [ih hRest]
                      rfl

/- Where no value is counted, no target is looked at. -/
theorem matchingTargets_of_countMatching
    {values : List Value}
    (hNone : countMatching criterion values = .ok 0)
    (targets : List Value) :
    matchingTargets criterion values targets = .ok [] := by
  induction values generalizing targets with
  | nil => rfl
  | cons value values ih =>
      rw [countMatching] at hNone
      rw [matchingTargets]
      cases hHere : value.satisfies criterion with
      | error failure =>
          rw [hHere] at hNone
          cases hNone
      | ok here =>
          cases hRest : countMatching criterion values with
          | error failure =>
              rw [hHere, hRest] at hNone
              cases hNone
          | ok n =>
              rw [hHere, hRest] at hNone
              cases here with
              | true => cases hNone
              | false =>
                  cases hNone
                  exact ih hRest _

end Spreadsheet

------------------------------------------------------------
-- Texts That Are Too Great
------------------------------------------------------------

namespace Spreadsheet

namespace Value

/- The number of a text is found or too great. -/
theorem numberOfText_failsOnly
    (s : String) :
    FailsOnly (· = .wholeTooGreat) (numberOfText s) := by
  unfold numberOfText
  dsimp only
  split
  · exact .of_ok _ _
  · split
    · exact .of_ok _ _
    · exact .of_ok _ _
    · exact (FailsOnly.error_iff _ _).mpr rfl

theorem toNumber?_failsOnly
    (value : Value) :
    FailsOnly (· = .wholeTooGreat) value.toNumber? := by
  cases value with
  | number x => exact .of_ok _ _
  | text s => exact numberOfText_failsOnly s

/- No criterion fails for another reason. -/
theorem satisfies_failsOnly
    (value : Value)
    (criterion : String) :
    FailsOnly (· = .wholeTooGreat)
      (value.satisfies criterion) := by
  have hBoth :
      ∀ operand,
        FailsOnly (· = .wholeTooGreat)
          (Criterion.bothNumbers? operand
            value.toNumber?) := by
    intro operand
    rw [Criterion.bothNumbers?, FailsOnly.bind_iff]
    refine ⟨numberOfText_failsOnly operand, fun y _ => ?_⟩
    rw [FailsOnly.bind_iff]
    exact ⟨value.toNumber?_failsOnly, fun x _ => .of_ok _ _⟩
  unfold satisfies Criterion.accepts
  split
  · rw [FailsOnly.bind_iff]
    refine ⟨hBoth _, fun both? _ => ?_⟩
    split <;> exact .of_ok _ _
  · exact .of_ok _ _
  · rw [FailsOnly.bind_iff]
    refine ⟨hBoth _, fun both? _ => ?_⟩
    split <;> exact .of_ok _ _

end Value

theorem targetNumber_failsOnly
    (target : Option Value) :
    FailsOnly (· = .wholeTooGreat) (targetNumber target) := by
  cases target with
  | none => exact .of_ok _ _
  | some value =>
      rw [targetNumber, FailsOnly.map_iff]
      exact value.toNumber?_failsOnly

/- Values are matched or a text is too great. -/
theorem matchingTargets_failsOnly
    (criterion : String)
    (values targets : List Value) :
    FailsOnly (· = .wholeTooGreat)
      (matchingTargets criterion values targets) := by
  induction values generalizing targets with
  | nil => exact .of_ok _ _
  | cons value values ih =>
      rw [matchingTargets, FailsOnly.bind_iff]
      refine ⟨value.satisfies_failsOnly criterion,
        fun here _ => ?_⟩
      rw [FailsOnly.ite_iff]
      refine ⟨fun _ => ?_, fun _ => ih _⟩
      rw [FailsOnly.bind_iff]
      refine ⟨targetNumber_failsOnly _, fun x _ => ?_⟩
      rw [FailsOnly.bind_iff]
      exact ⟨ih _, fun xs _ => .of_ok _ _⟩

end Spreadsheet

------------------------------------------------------------
-- Counts As Floats
------------------------------------------------------------

namespace Spreadsheet

namespace Number

/- Of all counts only that of nothing is zero as a float. -/
theorem ofInt_beq_zero
    (count : Nat) :
    (ofInt count == 0.0) = decide (count = 0) := by
  rcases Nat.eq_zero_or_pos count with rfl | hPositive
  · decide +kernel
  have hOther : count ≠ 0 := Nat.pos_iff_ne_zero.mp hPositive
  rw [decide_eq_false hOther]
  by_contra hZero
  rw [Bool.not_eq_false] at hZero
  have hBinary :
      ∃ negative exponent,
        Binary.ofFloat (ofInt count) =
          .finite negative 0 exponent := by
    rcases Float.beq_iff_ne_nan_and_eq.mp hZero with
      ⟨-, -, hSame | ⟨hSame, -⟩ | ⟨hSame, -⟩⟩
    · rw [hSame]
      exact ⟨false, _, rfl⟩
    · rw [hSame]
      exact ⟨false, _, rfl⟩
    · rw [hSame]
      exact ⟨true, _, rfl⟩
  rcases hBinary with ⟨negative, exponent, hBinary⟩
  rcases (rounds_nearest false count Nat.one_pos).cases
      Nat.one_pos with
    ⟨mantissa, other, hFinite, hMantissa, -⟩ |
      ⟨-, hNear⟩ | ⟨hInfinite, -⟩
  · have hSame := hBinary.symm.trans hFinite
    cases hSame
    exact absurd hMantissa (Nat.lt_irrefl 0)
  · have hHigh := hNear.high
    have hTiny :
        (2 : ℚ) ^ Binary.leastExponent ≤ 1 :=
      zpow_le_one_of_nonpos₀ one_le_two (by decide)
    have hOne : (1 : ℚ) ≤ count := by
      exact_mod_cast hPositive
    rw [Nat.cast_zero, zero_add, Nat.cast_one, div_one]
      at hHigh
    linarith
  · cases hBinary.symm.trans hInfinite

/- No other count is the float zero. -/
theorem ofInt_eq_zero_iff
    (count : Nat) :
    ofInt count = 0.0 ↔ count = 0 := by
  constructor
  · intro hZero
    have hCount := ofInt_beq_zero count
    rw [hZero] at hCount
    have hSame : ((0.0 : Float) == 0.0) = true := by
      decide +kernel
    rw [hSame] at hCount
    exact of_decide_eq_true hCount.symm
  · rintro rfl
    decide +kernel

end Number

end Spreadsheet

------------------------------------------------------------
-- Means And Quotients
------------------------------------------------------------

namespace Spreadsheet

namespace Call

variable (range criterion : Argument)
variable (target : Option Argument)

/-
  The numbers of the targets of values that satisfy; without
  targets the values are their own.
-/
def paired :
    Except Failure (List Float) := do
  let text ← criterion.toText
  matchingTargets text range.values
    (target.getD range).values

/- The mean of numbers that were matched. -/
def meanOf
    (xs : List Float) :
    Except Failure Value :=
  if xs.isEmpty then
    .error .averageIfOfNothing
  else
    .ok (.number (Value.total xs / Number.ofInt xs.length))

/- The sum of numbers that were matched. -/
def sumOf
    (xs : List Float) :
    Value :=
  .number (Value.total xs)

/- The count of the values that satisfy. -/
def counted :
    Except Failure Value := do
  let text ← criterion.toText
  let n ← countMatching text range.values
  return .number (Number.ofInt n)

/- A mean is taken of the numbers that are matched. -/
theorem averageIf_eq
    (call : Call) :
    call.averageIf = call.targets >>= meanOf := by
  rw [averageIf]
  refine bind_congr fun xs => ?_
  rw [meanOf]
  cases xs with
  | nil => rfl
  | cons x xs => rfl

/- A mean is asked for. -/
theorem answer_averageIf :
    Call.answer
        ⟨.averageIf, range :: criterion :: target.toList⟩ =
      .settled (paired range criterion target >>= meanOf) := by
  cases target with
  | none => exact congrArg Answer.settled (averageIf_eq _)
  | some target =>
      exact congrArg Answer.settled (averageIf_eq _)

/- A sum is asked for. -/
theorem answer_sumIf :
    Call.answer
        ⟨.sumIf, range :: criterion :: target.toList⟩ =
      .settled
        ((paired range criterion target).map sumOf) := by
  cases target with
  | none => rfl
  | some target => rfl

/- A count is asked for. -/
theorem answer_countIf_of_arguments :
    Call.answer ⟨.countIf, [range, criterion]⟩ =
      .settled (counted range criterion) :=
  rfl

/- A sum over a count is the mean, if there is any. -/
theorem div_of_count
    (xs : List Float) :
    (BinaryOp.apply .div (sumOf xs)
        (.number (Number.ofInt xs.length))).mapError
          Failure.display =
      (meanOf xs).mapError Failure.display := by
  have hZero := Number.ofInt_beq_zero xs.length
  have hDiv :
      BinaryOp.apply .div (sumOf xs)
          (.number (Number.ofInt xs.length)) =
        if Number.ofInt xs.length == 0.0 then
          .error .divisionByZero
        else
          .ok (.number
            (Value.total xs / Number.ofInt xs.length)) := by
    rw [BinaryOp.apply, Value.onDivisor]
    change (if (Number.ofInt xs.length == 0.0) = true then _
      else _) = _
    split <;> rfl
  rw [hDiv, meanOf, hZero]
  cases xs with
  | nil => rfl
  | cons x xs => rfl

/- The failures of one argument that should be one value. -/
theorem toText_failsOnly :
    FailsOnly (· = .severalValues) criterion.toText := by
  rw [Argument.toText, FailsOnly.map_iff]
  cases criterion with
  | scalar value => exact .of_ok _ _
  | area values =>
      rcases values with _ | ⟨value, _ | _⟩
      · exact (FailsOnly.error_iff _ _).mpr rfl
      · exact .of_ok _ _
      · exact (FailsOnly.error_iff _ _).mpr rfl

/-
  Either all numbers are found, and as many values counted, or
  an argument or a text cannot be used, and the count is not
  zero.
-/
theorem paired_cases :
    (∃ failure : Failure,
      paired range criterion target = .error failure ∧
        failure.display ≠ "#DIV/0!" ∧
        counted range criterion ≠ .ok (.number 0.0)) ∨
    ∃ xs,
      paired range criterion target = .ok xs ∧
        counted range criterion =
          .ok (.number (Number.ofInt xs.length)) := by
  cases hText : criterion.toText with
  | error failure =>
      rw [paired, counted, hText,
        toText_failsOnly criterion failure hText]
      exact .inl ⟨_, rfl, by decide, nofun⟩
  | ok text =>
      have hPaired :
          paired range criterion target =
            matchingTargets text range.values
              (target.getD range).values := by
        rw [paired, hText]
        rfl
      have hCounted :
          counted range criterion =
            (countMatching text range.values).map
              fun n : Nat => .number (Number.ofInt n) := by
        rw [counted, hText]
        rfl
      rw [hPaired, hCounted]
      cases hFound :
          matchingTargets text range.values
            (target.getD range).values with
      | ok xs =>
          right
          rw [countMatching_of_matchingTargets hFound]
          exact ⟨xs, rfl, rfl⟩
      | error failure =>
          left
          rw [matchingTargets_failsOnly _ _ _ failure hFound]
          refine ⟨_, rfl, by decide, ?_⟩
          cases hCount : countMatching text range.values with
          | error other => exact nofun
          | ok n =>
              intro hZero
              have hNone :=
                (Number.ofInt_eq_zero_iff n).mp
                  (Value.number.inj (Except.ok.inj hZero))
              rw [hNone] at hCount
              rw [matchingTargets_of_countMatching hCount]
                at hFound
              cases hFound

/-
  The mean of the targets is their sum over the count of the
  values, or shows the same failure.
-/
theorem meanOf_paired_eq :
    (paired range criterion target >>= meanOf).mapError
        Failure.display =
      ((paired range criterion target).map sumOf >>=
        fun sum => counted range criterion >>= fun count =>
          BinaryOp.apply .div sum count).mapError
            Failure.display := by
  rcases paired_cases range criterion target with
    ⟨failure, hFailed, -⟩ | ⟨xs, hFound, hCounted⟩
  · rw [hFailed]
    rfl
  · rw [hFound, hCounted]
    exact (div_of_count xs).symm

/- The count is zero just where a mean of nothing is shown. -/
theorem meanOf_paired_iff :
    (paired range criterion target >>= meanOf).mapError
        Failure.display = .error "#DIV/0!" ↔
      counted range criterion = .ok (.number 0.0) := by
  rcases paired_cases range criterion target with
    ⟨failure, hFailed, hShown, hSome⟩ | ⟨xs, hFound, hCounted⟩
  · rw [hFailed]
    constructor
    · intro hSame
      exact absurd (Except.error.inj hSame) hShown
    · exact fun hZero => absurd hZero hSome
  · rw [hFound, hCounted, Except.ok.injEq, Value.number.injEq,
      Number.ofInt_eq_zero_iff]
    cases xs with
    | nil => exact ⟨fun _ => rfl, fun _ => rfl⟩
    | cons x xs => exact ⟨nofun, nofun⟩

end Call

end Spreadsheet
