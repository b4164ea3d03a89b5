import Spreadsheet.Evaluation.Operators
import Spreadsheet.Function.Answer

/-
  Failures of functions and operators.

  There are two failures by which the guard stops an
  evaluation: a cell closes a circle, or there is no room for
  it.  Functions, operators and readings of values fail for
  reasons of their own and never in these two ways, so that a
  stop always comes from the guard itself.

  Key definitions include:
    * `Spreadsheet.FailsOnly`
    * `Spreadsheet.Failure.isStop`
    * `Spreadsheet.Unstopped`
    * `Spreadsheet.Answer.Unstopped`

  Main results:
    * `Spreadsheet.UnaryOp.unstopped_apply`
    * `Spreadsheet.BinaryOp.unstopped_deliver`
    * `Spreadsheet.Call.unstopped_delivered`
-/

------------------------------------------------------------
-- Failures Of One Kind
------------------------------------------------------------

namespace Spreadsheet

/- A result fails, if at all, in an allowed way. -/
def FailsOnly
    {α : Type}
    (allowed : Failure → Prop)
    (result : Except Failure α) : Prop :=
  ∀ failure, result = .error failure → allowed failure

namespace FailsOnly

variable {α β : Type}
variable (allowed : Failure → Prop)

theorem of_ok
    (value : α) :
    FailsOnly allowed (.ok value) := by
  intro failure hFailure
  cases hFailure

theorem error_iff
    (failure : Failure) :
    FailsOnly allowed (.error failure : Except Failure α) ↔
      allowed failure := by
  constructor
  · intro hFails
    exact hFails failure rfl
  · intro hAllowed other hOther
    cases hOther
    exact hAllowed

/- A step after another fails as one of the two does. -/
theorem bind_iff
    (result : Except Failure α)
    (follow : α → Except Failure β) :
    FailsOnly allowed (result >>= follow) ↔
      FailsOnly allowed result ∧
        ∀ value, result = .ok value →
          FailsOnly allowed (follow value) := by
  cases result with
  | ok value =>
      simp [bind, Except.bind, of_ok allowed value]
  | error failure =>
      simp [bind, Except.bind, error_iff allowed failure]

theorem map_iff
    (result : Except Failure α)
    (change : α → β) :
    FailsOnly allowed (result.map change) ↔
      FailsOnly allowed result := by
  cases result with
  | ok value =>
      simp [Except.map, of_ok allowed]
  | error failure =>
      simp [Except.map, error_iff allowed failure]

theorem ite_iff
    (condition : Prop)
    [Decidable condition]
    (first second : Except Failure α) :
    FailsOnly allowed
        (if condition then first else second) ↔
      (condition → FailsOnly allowed first) ∧
        (¬condition → FailsOnly allowed second) := by
  by_cases hCondition : condition <;> simp [hCondition]

end FailsOnly

end Spreadsheet

------------------------------------------------------------
-- Stops
------------------------------------------------------------

namespace Spreadsheet

/- A failure by which the guard stops an evaluation. -/
@[simp] def Failure.isStop :
    Failure → Bool
  | tooDeep _ => true
  | circular _ => true
  | _ => false

/- A result that is no stop. -/
def Unstopped
    {α : Type}
    (result : Except Failure α) : Prop :=
  ∀ failure, result = .error failure →
    failure.isStop = false

namespace Unstopped

variable {α β : Type}

@[simp] theorem of_ok
    (value : α) :
    Unstopped (.ok value) :=
  FailsOnly.of_ok _ value

@[simp] theorem of_pure
    (value : α) :
    Unstopped (pure value) :=
  of_ok value

@[simp] theorem error_iff
    (failure : Failure) :
    Unstopped (.error failure : Except Failure α) ↔
      failure.isStop = false :=
  FailsOnly.error_iff _ failure

@[simp] theorem throw_iff
    (failure : Failure) :
    Unstopped (throw failure : Except Failure α) ↔
      failure.isStop = false :=
  error_iff failure

/- The two stops are want of room and a circle. -/
theorem of_ne
    {result : Except Failure α}
    (hRoom : ∀ limit, result ≠ .error (.tooDeep limit))
    (hCircle : ∀ path, result ≠ .error (.circular path)) :
    Unstopped result := by
  intro failure hFailure
  cases failure with
  | tooDeep limit => exact absurd hFailure (hRoom limit)
  | circular path => exact absurd hFailure (hCircle path)
  | _ => rfl

@[simp] theorem bind_iff
    (result : Except Failure α)
    (follow : α → Except Failure β) :
    Unstopped (result >>= follow) ↔
      Unstopped result ∧
        ∀ value, result = .ok value →
          Unstopped (follow value) :=
  FailsOnly.bind_iff _ result follow

@[simp] theorem map_iff
    (result : Except Failure α)
    (change : α → β) :
    Unstopped (result.map change) ↔ Unstopped result :=
  FailsOnly.map_iff _ result change

@[simp] theorem functor_map_iff
    (result : Except Failure α)
    (change : α → β) :
    Unstopped (change <$> result) ↔ Unstopped result :=
  map_iff result change

@[simp] theorem ite_iff
    (condition : Prop)
    [Decidable condition]
    (first second : Except Failure α) :
    Unstopped (if condition then first else second) ↔
      (condition → Unstopped first) ∧
        (¬condition → Unstopped second) :=
  FailsOnly.ite_iff _ condition first second

end Unstopped

end Spreadsheet

------------------------------------------------------------
-- Readings Of Values
------------------------------------------------------------

namespace Spreadsheet

namespace Value

@[simp] theorem unstopped_numberOfText
    (s : String) :
    Unstopped (numberOfText s) := by
  unfold numberOfText
  dsimp only
  split
  · simp
  · split <;> simp

@[simp] theorem unstopped_toNumber?
    (value : Value) :
    Unstopped value.toNumber? := by
  cases value <;> simp [toNumber?]

@[simp] theorem unstopped_toNumber
    (value : Value) :
    Unstopped value.toNumber := by
  rw [toNumber, Unstopped.bind_iff]
  refine ⟨value.unstopped_toNumber?, fun x? _ => ?_⟩
  cases x? <;> simp

@[simp] theorem unstopped_isTrue
    (value : Value) :
    Unstopped value.isTrue := by
  simp [isTrue]

theorem unstopped_ofLiteral
    (s : String) :
    Unstopped (ofLiteral s) := by
  unfold ofLiteral
  split
  · simp
  · rw [Unstopped.bind_iff]
    refine ⟨unstopped_numberOfText s, fun x? _ => ?_⟩
    cases x? <;> simp

@[simp] theorem unstopped_numbers
    (values : List Value) :
    Unstopped (numbers values) := by
  induction values with
  | nil => simp [numbers]
  | cons value rest ih => simp [numbers, contribution, ih]

@[simp] theorem unstopped_totalOf
    (values : List Value) :
    Unstopped (totalOf values) := by
  simp [totalOf]

@[simp] theorem unstopped_allTrue
    (values : List Value) :
    Unstopped (allTrue values) := by
  induction values with
  | nil => simp [allTrue]
  | cons value rest ih => simp [allTrue, ih]

@[simp] theorem unstopped_someTrue
    (values : List Value) :
    Unstopped (someTrue values) := by
  induction values with
  | nil => simp [someTrue]
  | cons value rest ih => simp [someTrue, ih]

end Value

end Spreadsheet

------------------------------------------------------------
-- Operations On Numbers
------------------------------------------------------------

namespace Spreadsheet

namespace Number

@[simp] theorem unstopped_floor
    (x : Float) :
    Unstopped (floor x) := by
  unfold floor
  split <;> simp

@[simp] theorem unstopped_ceiling
    (x : Float) :
    Unstopped (ceiling x) := by
  unfold ceiling
  split <;> simp

@[simp] theorem unstopped_remainder
    (x y : Float) :
    Unstopped (remainder x y) := by
  unfold remainder
  split <;> simp

@[simp] theorem unstopped_power
    (x y : Float) :
    Unstopped (power x y) := by
  simp [power, powerOfFinite]

@[simp] theorem unstopped_exponential
    (x : Float) :
    Unstopped (exponential x) := by
  simp [exponential]

@[simp] theorem unstopped_logarithm
    (x : Float) :
    Unstopped (logarithm x) := by
  simp [logarithm]

@[simp] theorem unstopped_spreadOf
    (xs : List Float) :
    Unstopped (spreadOf xs) := by
  unfold spreadOf
  split
  · simp
  · simp [roundedSpread]

end Number

end Spreadsheet

------------------------------------------------------------
-- Operators
------------------------------------------------------------

namespace Spreadsheet

theorem UnaryOp.unstopped_apply
    (op : UnaryOp)
    (value : Value) :
    Unstopped (op.apply value) := by
  cases op <;> simp [apply]

namespace Value

@[simp] theorem unstopped_onNumbers
    (operation : Float → Float → Except Failure Value)
    (hOperation : ∀ x y, Unstopped (operation x y))
    (a b : Value) :
    Unstopped (onNumbers operation a b) := by
  simp [onNumbers, hOperation]

theorem unstopped_onDivisor
    (zero : Failure)
    (operation : Float → Float → Except Failure Float)
    (hZero : zero.isStop = false)
    (hOperation : ∀ x y, Unstopped (operation x y))
    (a b : Value) :
    Unstopped (onDivisor zero operation a b) := by
  simp only [onDivisor, Unstopped.bind_iff,
    Unstopped.ite_iff, Unstopped.throw_iff, hZero]
  simp [hOperation]

@[simp] theorem unstopped_sameAs
    (a b : Value) :
    Unstopped (a.sameAs b) := by
  rw [sameAs, Unstopped.bind_iff]
  refine ⟨a.unstopped_toNumber?, fun x? _ => ?_⟩
  rw [Unstopped.bind_iff]
  refine ⟨b.unstopped_toNumber?, fun y? _ => ?_⟩
  split <;> simp

end Value

theorem BinaryOp.unstopped_apply
    (op : BinaryOp)
    (a b : Value) :
    Unstopped (op.apply a b) := by
  cases op with
  | compare comparison =>
      cases comparison <;> simp [apply, Value.compare]
  | div =>
      exact Value.unstopped_onDivisor _ _ rfl (by simp) a b
  | mod =>
      exact Value.unstopped_onDivisor _ _ rfl (by simp) a b
  | _ => simp [apply]

namespace BinaryOp

variable (op : BinaryOp)
variable (a b : Value)

/-
  An operator is delivered as it is applied, or else it joins
  texts to one that is too long.
-/
theorem deliver_cases :
    op.deliver a b = op.apply a b ∨
      op = .concat ∧
      lengthLimit ≤ a.toText.length + b.toText.length ∧
      op.deliver a b = .error .joinedTooLong := by
  unfold deliver
  split
  · split
    · rename_i hLong
      exact Or.inr ⟨rfl, hLong, rfl⟩
    · exact Or.inl rfl
  · exact Or.inl rfl

theorem unstopped_deliver :
    Unstopped (op.deliver a b) := by
  rcases op.deliver_cases a b with hApply | ⟨-, -, hFailed⟩
  · rw [hApply]
    exact op.unstopped_apply a b
  · simp [hFailed]

end BinaryOp

end Spreadsheet

------------------------------------------------------------
-- Arguments
------------------------------------------------------------

namespace Spreadsheet

namespace Argument

@[simp] theorem unstopped_single
    (argument : Argument) :
    Unstopped argument.single := by
  unfold single
  split <;> simp

@[simp] theorem unstopped_total
    (argument : Argument) :
    Unstopped argument.total := by
  cases argument <;> simp [total]

end Argument

namespace Call

variable (call : Call)
variable (index : Nat)

@[simp] theorem unstopped_numberOr
    (missing : Value) :
    Unstopped (call.numberOr index missing) := by
  simp [numberOr, Argument.toNumber]

@[simp] theorem unstopped_number :
    Unstopped (call.number index) :=
  call.unstopped_numberOr index _

@[simp] theorem unstopped_word :
    Unstopped (call.word index) := by
  simp [word, Argument.toText]

@[simp] theorem unstopped_chars :
    Unstopped (call.chars index) := by
  simp [chars]

@[simp] theorem unstopped_numbers :
    Unstopped call.numbers :=
  Value.unstopped_numbers call.values

@[simp] theorem unstopped_size
    (missing : Value) :
    Unstopped (call.size index missing) := by
  rw [size, Unstopped.bind_iff]
  refine ⟨by simp, fun x _ => ?_⟩
  split <;> simp

@[simp] theorem unstopped_start :
    Unstopped (call.start index) := by
  rw [start, Unstopped.bind_iff]
  refine ⟨by simp, fun x _ => ?_⟩
  split <;> simp

end Call

end Spreadsheet

------------------------------------------------------------
-- Criteria And Dates
------------------------------------------------------------

namespace Spreadsheet

@[simp] theorem Value.unstopped_satisfies
    (value : Value)
    (criterion : String) :
    Unstopped (value.satisfies criterion) := by
  have hBoth :
      ∀ operand, Unstopped
        (Criterion.bothNumbers? operand value.toNumber?) := by
    intro operand
    simp [Criterion.bothNumbers?]
  unfold Value.satisfies Criterion.accepts
  split
  · rw [Unstopped.bind_iff]
    refine ⟨hBoth _, fun both? _ => ?_⟩
    split <;> simp
  · simp
  · rw [Unstopped.bind_iff]
    refine ⟨hBoth _, fun both? _ => ?_⟩
    split <;> simp

@[simp] theorem unstopped_matchingTargets
    (criterion : String)
    (values targets : List Value) :
    Unstopped (matchingTargets criterion values targets) := by
  have hTarget :
      ∀ target, Unstopped (targetNumber target) := by
    intro target
    cases target <;> simp [targetNumber]
  induction values generalizing targets with
  | nil => simp [matchingTargets]
  | cons value rest ih =>
      simp [matchingTargets, hTarget, ih]

@[simp] theorem unstopped_countMatching
    (criterion : String)
    (values : List Value) :
    Unstopped (countMatching criterion values) := by
  induction values with
  | nil => simp [countMatching]
  | cons value rest ih => simp [countMatching, ih]

@[simp] theorem Call.unstopped_targets
    (call : Call) :
    Unstopped call.targets := by
  simp [Call.targets]

namespace Date

@[simp] theorem unstopped_ofSerial
    (serial : Float) :
    Unstopped (ofSerial serial) := by
  unfold ofSerial
  split
  · simp
  · split <;> simp

@[simp] theorem unstopped_ofText
    (text : String) :
    Unstopped (ofText text) := by
  unfold ofText
  split <;> simp

end Date

@[simp] theorem Value.unstopped_toDate
    (value : Value) :
    Unstopped value.toDate := by
  cases value with
  | number x => simp [Value.toDate]
  | text s =>
      simp only [Value.toDate]
      split
      · simp
      · rw [Unstopped.bind_iff]
        refine ⟨by simp, fun x? _ => ?_⟩
        cases x? <;> simp

end Spreadsheet

------------------------------------------------------------
-- Functions
------------------------------------------------------------

namespace Spreadsheet

namespace Call

variable (call : Call)

@[simp] theorem unstopped_roundWith
    (whole : Float → Except Failure Float)
    (hWhole : ∀ x, Unstopped (whole x)) :
    Unstopped (call.roundWith whole) := by
  simp [roundWith, hWhole]

@[simp] theorem unstopped_multipleWith
    (whole : Float → Except Failure Float)
    (hWhole : ∀ x, Unstopped (whole x)) :
    Unstopped (call.multipleWith whole) := by
  simp [multipleWith, hWhole]

@[simp] theorem unstopped_datePart
    (part : Date → Nat) :
    Unstopped (call.datePart part) := by
  simp [datePart]

@[simp] theorem unstopped_locate
    (form : List Char → List Char) :
    Unstopped (call.locate form) := by
  simp only [locate, Unstopped.bind_iff]
  refine ⟨by simp, fun _ _ => ⟨by simp, fun _ _ => ?_⟩⟩
  refine ⟨by simp, fun _ _ => ?_⟩
  split <;> simp

@[simp] theorem unstopped_stdev :
    Unstopped call.stdev := by
  simp [stdev]

end Call

/- An answer is no stop, whatever it waits for. -/
def Answer.Unstopped :
    Answer → Prop
  | .settled result => Spreadsheet.Unstopped result
  | .drawing result =>
      ∀ random, Spreadsheet.Unstopped (result random)
  | .dating result =>
      ∀ now, Spreadsheet.Unstopped (result now)
  | .fitting _ result =>
      ∀ fits, Spreadsheet.Unstopped (result fits)

namespace Call

variable (call : Call)

theorem unstopped_randomBetween :
    call.randomBetween.Unstopped := by
  unfold randomBetween
  cases hBounds : call.bounds with
  | ok bounds =>
      intro random
      simp [Number.pick]
  | error failure =>
      have hUnstopped : Unstopped call.bounds := by
        simp [bounds]
      rw [hBounds, Unstopped.error_iff] at hUnstopped
      exact (Unstopped.error_iff failure).mpr hUnstopped

theorem unstopped_repeatText :
    call.repeatText.Unstopped := by
  unfold repeatText
  cases hRepetition : call.repetition with
  | ok repeated =>
      dsimp only
      split
      · simp [Answer.Unstopped]
      · split
        · simp [Answer.Unstopped]
        · intro fits
          cases fits <;> simp
  | error failure =>
      have hUnstopped : Unstopped call.repetition := by
        simp [repetition]
      rw [hRepetition, Unstopped.error_iff] at hUnstopped
      exact (Unstopped.error_iff failure).mpr hUnstopped

/- No call is answered by a stop. -/
theorem unstopped_answer :
    call.answer.Unstopped := by
  have hAnswerOf : call.answerOf.Unstopped := by
    unfold answerOf
    cases call.function with
    | randBetween => exact call.unstopped_randomBetween
    | rept => exact call.unstopped_repeatText
    | _ =>
        simp [Answer.Unstopped, abs, conjunction, average,
          averageIf, ceiling, concatenate, count, countA,
          countIf, exponential, find, floor, ifElse,
          unfailed, int, left, len, naturalLogarithm,
          logarithm, lower, maximum, median, mid, minimum,
          mod, negation, disjunction, pi, power, product,
          replacing, right, round, roundDown, roundUp, search,
          sign, sqrt, substitute, sum, sumIf, text, trim,
          upper, value]
  unfold answer check checkLimit
  cases call.function.limit? with
  | none => exact hAnswerOf
  | some limit =>
      by_cases hLimit : limit < call.arguments.length
      · simp [hLimit, Answer.Unstopped]
      · simpa [hLimit] using hAnswerOf

/-
  A call is delivered as it is answered, or else a text that
  it makes is too long.
-/
theorem delivered_cases :
    call.delivered = call.answer ∨
      ∃ failure, call.overlong? = some failure ∧
        call.delivered = .settled (.error failure) := by
  unfold delivered
  split
  · rename_i failure hCheck hOverlong
    exact Or.inr ⟨failure, hOverlong, rfl⟩
  · exact Or.inl rfl

/- Only two functions make texts that are too long. -/
theorem delivered_of_ne
    (hConcatenate : call.function ≠ .concatenate)
    (hSubstitute : call.function ≠ .substitute) :
    call.delivered = call.answer := by
  have hNone : call.overlong? = none := by
    unfold overlong?
    split
    · exact absurd ‹_› hConcatenate
    · exact absurd ‹_› hSubstitute
    · rfl
  rcases call.delivered_cases with hAnswer | hFailed
  · exact hAnswer
  · rcases hFailed with ⟨failure, hSome, -⟩
    rw [hNone] at hSome
    cases hSome

/- Texts are too long in two ways. -/
theorem overlong_cases
    {failure : Failure}
    (hOverlong : call.overlong? = some failure) :
    failure = .joinedTooLong ∨
      failure = .replacedTooLong := by
  unfold overlong? at hOverlong
  split at hOverlong
  · split at hOverlong <;> cases hOverlong
    exact Or.inl rfl
  · split at hOverlong
    · split at hOverlong <;> cases hOverlong
      exact Or.inr rfl
    · cases hOverlong
  · cases hOverlong

/- No call is delivered as a stop. -/
theorem unstopped_delivered :
    call.delivered.Unstopped := by
  rcases call.delivered_cases with hAnswer | hFailed
  · rw [hAnswer]
    exact call.unstopped_answer
  · rcases hFailed with ⟨failure, hOverlong, hFailed⟩
    rw [hFailed]
    refine (Unstopped.error_iff failure).mpr ?_
    rcases call.overlong_cases hOverlong with rfl | rfl <;>
      rfl

end Call

end Spreadsheet
