import Spreadsheet.Proofs.Function.Failure

/-
  Faults of functions and operators.

  A failure that is no formula error is a fault of the
  machine.  Almost every operation guards against faults, and
  what it cannot compute is a formula error.  Some do not: a
  text may be a whole number too great for a float, a factor
  of ten may be zero, a text may be repeated too often or
  become too long, and numbers may have no spread.  These
  slips are all there are as long as the memory does not run
  out, which may happen anywhere and is left aside.

  Key definitions include:
    * `Spreadsheet.FaultsOnly`
    * `Spreadsheet.Text.IsTooGreat`
    * `Spreadsheet.Value.IsTooGreat`
    * `Spreadsheet.Criterion.operand?`
    * `Spreadsheet.Call.Slips`
    * `Spreadsheet.Answer.FaultsOnly`

  Main results:
    * `Spreadsheet.Value.faultsOnly_toNumber`
    * `Spreadsheet.UnaryOp.faultsOnly_apply`
    * `Spreadsheet.BinaryOp.faultsOnly_apply`
    * `Spreadsheet.Call.faultsOnly_delivered`
-/

------------------------------------------------------------
-- Faults
------------------------------------------------------------

namespace Spreadsheet

attribute [simp] Failure.isFormulaError Failure.machineName?

/- The faults of the machine in a result are allowed ones. -/
def FaultsOnly
    {α : Type}
    (allowed : Failure → Prop)
    (result : Except Failure α) : Prop :=
  FailsOnly
    (fun failure =>
      failure.isFormulaError = false → allowed failure)
    result

namespace FaultsOnly

variable {α β : Type}
variable {allowed : Failure → Prop}

@[simp] theorem of_ok
    (value : α) :
    FaultsOnly allowed (.ok value) :=
  FailsOnly.of_ok _ value

@[simp] theorem of_pure
    (value : α) :
    FaultsOnly allowed (pure value) :=
  of_ok value

@[simp] theorem error_iff
    (failure : Failure) :
    FaultsOnly allowed (.error failure : Except Failure α) ↔
      (failure.isFormulaError = false → allowed failure) :=
  FailsOnly.error_iff _ failure

@[simp] theorem throw_iff
    (failure : Failure) :
    FaultsOnly allowed (throw failure : Except Failure α) ↔
      (failure.isFormulaError = false → allowed failure) :=
  error_iff failure

@[simp] theorem bind_iff
    (result : Except Failure α)
    (follow : α → Except Failure β) :
    FaultsOnly allowed (result >>= follow) ↔
      FaultsOnly allowed result ∧
        ∀ value, result = .ok value →
          FaultsOnly allowed (follow value) :=
  FailsOnly.bind_iff _ result follow

@[simp] theorem map_iff
    (result : Except Failure α)
    (change : α → β) :
    FaultsOnly allowed (result.map change) ↔
      FaultsOnly allowed result :=
  FailsOnly.map_iff _ result change

@[simp] theorem functor_map_iff
    (result : Except Failure α)
    (change : α → β) :
    FaultsOnly allowed (change <$> result) ↔
      FaultsOnly allowed result :=
  map_iff result change

@[simp] theorem ite_iff
    (condition : Prop)
    [Decidable condition]
    (first second : Except Failure α) :
    FaultsOnly allowed
        (if condition then first else second) ↔
      (condition → FaultsOnly allowed first) ∧
        (¬condition → FaultsOnly allowed second) :=
  FailsOnly.ite_iff _ condition first second

end FaultsOnly

end Spreadsheet

------------------------------------------------------------
-- Texts That Are Too Great
------------------------------------------------------------

namespace Spreadsheet

/-
  A text is, between white space, a whole number in base 16,
  8 or 2 that is beyond the floats.
-/
def Text.IsTooGreat
    (s : String) : Prop :=
  ∃ n, Number.radix? (Text.trim s.toList) = some n ∧
    Number.exceeds n 1 = true

/- A value is a text that is too great; a number is not. -/
def Value.IsTooGreat :
    Value → Prop
  | number _ => False
  | text s => Text.IsTooGreat s

namespace Value

variable {allowed : Failure → Prop}

@[simp] theorem not_isTooGreat_number
    (x : Float) :
    ¬(number x).IsTooGreat :=
  id

@[simp] theorem not_isTooGreat_ofBool
    (b : Bool) :
    ¬(ofBool b).IsTooGreat :=
  id

@[simp] theorem not_isTooGreat_empty :
    ¬Value.empty.IsTooGreat := by
  rintro ⟨n, hNumber, -⟩
  cases hNumber

theorem faultsOnly_numberOfText
    {s : String}
    (hGreat : Text.IsTooGreat s → allowed .wholeTooGreat) :
    FaultsOnly allowed (numberOfText s) := by
  simp only [numberOfText, Number.numeral]
  split
  · simp
  · cases Number.decimal? (Text.trim s.toList) with
    | some x => simp
    | none =>
        cases Number.infinity? (Text.trim s.toList) with
        | some x => simp
        | none =>
            cases hRadix :
                Number.radix? (Text.trim s.toList) with
            | none => simp
            | some n =>
                by_cases hExceeds :
                    Number.exceeds n 1 = true
                · simp [hExceeds,
                    hGreat ⟨n, hRadix, hExceeds⟩]
                · simp [hExceeds]

theorem faultsOnly_toNumber?
    {value : Value}
    (hGreat : value.IsTooGreat → allowed .wholeTooGreat) :
    FaultsOnly allowed value.toNumber? := by
  cases value with
  | number x => simp [toNumber?]
  | text s => exact faultsOnly_numberOfText hGreat

/- To read a value as a number slips on great texts only. -/
theorem faultsOnly_toNumber
    {value : Value}
    (hGreat : value.IsTooGreat → allowed .wholeTooGreat) :
    FaultsOnly allowed value.toNumber := by
  rw [toNumber, FaultsOnly.bind_iff]
  refine ⟨faultsOnly_toNumber? hGreat, fun x? _ => ?_⟩
  cases x? <;> simp

theorem faultsOnly_isTrue
    {value : Value}
    (hGreat : value.IsTooGreat → allowed .wholeTooGreat) :
    FaultsOnly allowed value.isTrue := by
  rw [isTrue, FaultsOnly.map_iff]
  exact faultsOnly_toNumber hGreat

theorem faultsOnly_ofLiteral
    {s : String}
    (hGreat : Text.IsTooGreat s → allowed .wholeTooGreat) :
    FaultsOnly allowed (ofLiteral s) := by
  unfold ofLiteral
  split
  · simp
  · rw [FaultsOnly.bind_iff]
    refine ⟨faultsOnly_numberOfText hGreat, fun x? _ => ?_⟩
    cases x? <;> simp

theorem faultsOnly_numbers
    {values : List Value}
    (hGreat : ∀ value ∈ values,
      value.IsTooGreat → allowed .wholeTooGreat) :
    FaultsOnly allowed (numbers values) := by
  induction values with
  | nil => simp [numbers]
  | cons value rest ih =>
      rw [List.forall_mem_cons] at hGreat
      simp [numbers, contribution, ih hGreat.2,
        faultsOnly_toNumber? hGreat.1]

theorem faultsOnly_totalOf
    {values : List Value}
    (hGreat : ∀ value ∈ values,
      value.IsTooGreat → allowed .wholeTooGreat) :
    FaultsOnly allowed (totalOf values) := by
  rw [totalOf, FaultsOnly.map_iff]
  exact faultsOnly_numbers hGreat

theorem faultsOnly_allTrue
    {values : List Value}
    (hGreat : ∀ value ∈ values,
      value.IsTooGreat → allowed .wholeTooGreat) :
    FaultsOnly allowed (allTrue values) := by
  induction values with
  | nil => simp [allTrue]
  | cons value rest ih =>
      rw [List.forall_mem_cons] at hGreat
      simp [allTrue, ih hGreat.2, faultsOnly_isTrue hGreat.1]

theorem faultsOnly_someTrue
    {values : List Value}
    (hGreat : ∀ value ∈ values,
      value.IsTooGreat → allowed .wholeTooGreat) :
    FaultsOnly allowed (someTrue values) := by
  induction values with
  | nil => simp [someTrue]
  | cons value rest ih =>
      rw [List.forall_mem_cons] at hGreat
      simp [someTrue, ih hGreat.2, faultsOnly_isTrue hGreat.1]

end Value

end Spreadsheet

------------------------------------------------------------
-- Operations On Numbers
------------------------------------------------------------

namespace Spreadsheet

namespace Number

variable {allowed : Failure → Prop}

@[simp] theorem faultsOnly_floor
    (x : Float) :
    FaultsOnly allowed (floor x) := by
  unfold floor
  split <;> simp

@[simp] theorem faultsOnly_ceiling
    (x : Float) :
    FaultsOnly allowed (ceiling x) := by
  unfold ceiling
  split <;> simp

@[simp] theorem faultsOnly_remainder
    (x y : Float) :
    FaultsOnly allowed (remainder x y) := by
  unfold remainder
  split <;> simp

@[simp] theorem faultsOnly_power
    (x y : Float) :
    FaultsOnly allowed (power x y) := by
  simp [power, powerOfFinite]

@[simp] theorem faultsOnly_exponential
    (x : Float) :
    FaultsOnly allowed (exponential x) := by
  simp [exponential]

@[simp] theorem faultsOnly_logarithm
    (x : Float) :
    FaultsOnly allowed (logarithm x) := by
  simp [logarithm]

theorem isFinite_of_units_eq_none
    {x : Float}
    (hUnits : units? x = none) :
    isFinite x = false := by
  unfold units? at hUnits
  unfold isFinite
  cases hBinary : Binary.ofFloat x with
  | finite negative mantissa exponent =>
      simp [hBinary] at hUnits
  | _ => rfl

/- Numbers without a variance are not all finite. -/
theorem exists_of_variance_eq_none
    {xs : List Float}
    (hVariance : variance? xs = none) :
    ∃ x ∈ xs, isFinite x = false := by
  rw [variance?, Option.map_eq_none_iff] at hVariance
  induction xs with
  | nil => cases hVariance
  | cons x rest ih =>
      cases hUnits : units? x with
      | none =>
          exact ⟨x, List.mem_cons_self,
            isFinite_of_units_eq_none hUnits⟩
      | some n =>
          have hRest : rest.mapM units? = none := by
            rw [List.mapM_cons, hUnits] at hVariance
            cases hMap : rest.mapM units? with
            | none => rfl
            | some ns => simp [hMap] at hVariance
          rcases ih hRest with ⟨y, hMember, hInfinite⟩
          exact ⟨y, List.mem_cons_of_mem x hMember, hInfinite⟩

end Number

end Spreadsheet

------------------------------------------------------------
-- Operators
------------------------------------------------------------

namespace Spreadsheet

variable {allowed : Failure → Prop}

theorem UnaryOp.faultsOnly_apply
    (op : UnaryOp)
    {value : Value}
    (hGreat : value.IsTooGreat → allowed .wholeTooGreat) :
    FaultsOnly allowed (op.apply value) := by
  cases op <;>
    simp [apply, Value.faultsOnly_toNumber hGreat]

namespace Value

variable {a b : Value}

theorem faultsOnly_onNumbers
    {operation : Float → Float → Except Failure Value}
    (hOperation : ∀ x y, FaultsOnly allowed (operation x y))
    (hLeft : a.IsTooGreat → allowed .wholeTooGreat)
    (hRight : b.IsTooGreat → allowed .wholeTooGreat) :
    FaultsOnly allowed (onNumbers operation a b) := by
  simp [onNumbers, hOperation, faultsOnly_toNumber hLeft,
    faultsOnly_toNumber hRight]

theorem faultsOnly_onDivisor
    {zero : Failure}
    {operation : Float → Float → Except Failure Float}
    (hZero : zero.isFormulaError = true)
    (hOperation : ∀ x y, FaultsOnly allowed (operation x y))
    (hLeft : a.IsTooGreat → allowed .wholeTooGreat)
    (hRight : b.IsTooGreat → allowed .wholeTooGreat) :
    FaultsOnly allowed (onDivisor zero operation a b) := by
  simp only [onDivisor, FaultsOnly.bind_iff,
    FaultsOnly.ite_iff, FaultsOnly.throw_iff, hZero]
  simp [hOperation, faultsOnly_toNumber hLeft,
    faultsOnly_toNumber hRight]

theorem faultsOnly_sameAs
    (hLeft : a.IsTooGreat → allowed .wholeTooGreat)
    (hRight : b.IsTooGreat → allowed .wholeTooGreat) :
    FaultsOnly allowed (a.sameAs b) := by
  rw [sameAs, FaultsOnly.bind_iff]
  refine ⟨faultsOnly_toNumber? hLeft, fun x? _ => ?_⟩
  rw [FaultsOnly.bind_iff]
  refine ⟨faultsOnly_toNumber? hRight, fun y? _ => ?_⟩
  split <;> simp

end Value

theorem BinaryOp.faultsOnly_apply
    (op : BinaryOp)
    {a b : Value}
    (hLeft : a.IsTooGreat → allowed .wholeTooGreat)
    (hRight : b.IsTooGreat → allowed .wholeTooGreat) :
    FaultsOnly allowed (op.apply a b) := by
  cases op with
  | compare comparison =>
      cases comparison <;>
        simp [apply, Value.compare,
          Value.faultsOnly_sameAs hLeft hRight,
          Value.faultsOnly_onNumbers _ hLeft hRight]
  | concat => simp [apply]
  | div =>
      exact Value.faultsOnly_onDivisor rfl (by simp) hLeft
        hRight
  | mod =>
      exact Value.faultsOnly_onDivisor rfl (by simp) hLeft
        hRight
  | _ =>
      exact Value.faultsOnly_onNumbers (by simp) hLeft hRight

end Spreadsheet

------------------------------------------------------------
-- Criteria And Dates
------------------------------------------------------------

namespace Spreadsheet

/- The text of a criterion that is compared as a number. -/
def Criterion.operand? :
    Criterion → Option String
  | comparison _ operand => some operand
  | pattern _ => none
  | plain text => some text

/- The operand of a criterion is a text that is too great. -/
def Criterion.IsTooGreat
    (criterion : Criterion) : Prop :=
  ∃ operand, criterion.operand? = some operand ∧
    Text.IsTooGreat operand

variable {allowed : Failure → Prop}

theorem Value.faultsOnly_satisfies
    {value : Value}
    {criterion : String}
    (hValue : value.IsTooGreat → allowed .wholeTooGreat)
    (hCriterion : (Criterion.ofText criterion).IsTooGreat →
      allowed .wholeTooGreat) :
    FaultsOnly allowed (value.satisfies criterion) := by
  have hBoth :
      ∀ operand,
        (Criterion.ofText criterion).operand? =
            some operand →
          FaultsOnly allowed
            (Criterion.bothNumbers? operand
              value.toNumber?) := by
    intro operand hOperand
    have hGreat :
        Text.IsTooGreat operand → allowed .wholeTooGreat :=
      fun hOperandGreat =>
        hCriterion ⟨operand, hOperand, hOperandGreat⟩
    simp [Criterion.bothNumbers?,
      Value.faultsOnly_numberOfText hGreat,
      Value.faultsOnly_toNumber? hValue]
  unfold Value.satisfies Criterion.accepts
  split
  · rename_i op operand hComparison
    rw [FaultsOnly.bind_iff]
    refine ⟨hBoth operand ?_, fun both? _ => ?_⟩
    · rw [hComparison]
      rfl
    · split <;> simp
  · simp
  · rename_i text hPlain
    rw [FaultsOnly.bind_iff]
    refine ⟨hBoth text ?_, fun both? _ => ?_⟩
    · rw [hPlain]
      rfl
    · split <;> simp

theorem faultsOnly_matchingTargets
    {criterion : String}
    {values targets : List Value}
    (hValues : ∀ value ∈ values,
      value.IsTooGreat → allowed .wholeTooGreat)
    (hTargets : ∀ target ∈ targets,
      target.IsTooGreat → allowed .wholeTooGreat)
    (hCriterion : (Criterion.ofText criterion).IsTooGreat →
      allowed .wholeTooGreat) :
    FaultsOnly allowed
      (matchingTargets criterion values targets) := by
  induction values generalizing targets with
  | nil => simp [matchingTargets]
  | cons value rest ih =>
      rw [List.forall_mem_cons] at hValues
      have hHead :
          FaultsOnly allowed
            (targetNumber targets.head?) := by
        cases targets with
        | nil => simp [targetNumber]
        | cons target others =>
            simp [targetNumber, Value.faultsOnly_toNumber?
              (hTargets target List.mem_cons_self)]
      have hRest :
          FaultsOnly allowed
            (matchingTargets criterion rest targets.tail) :=
        ih hValues.2 fun target hTarget =>
          hTargets target (List.mem_of_mem_tail hTarget)
      simp [matchingTargets, hHead, hRest,
        Value.faultsOnly_satisfies hValues.1 hCriterion]

theorem faultsOnly_countMatching
    {criterion : String}
    {values : List Value}
    (hValues : ∀ value ∈ values,
      value.IsTooGreat → allowed .wholeTooGreat)
    (hCriterion : (Criterion.ofText criterion).IsTooGreat →
      allowed .wholeTooGreat) :
    FaultsOnly allowed (countMatching criterion values) := by
  induction values with
  | nil => simp [countMatching]
  | cons value rest ih =>
      rw [List.forall_mem_cons] at hValues
      simp [countMatching, ih hValues.2,
        Value.faultsOnly_satisfies hValues.1 hCriterion]

namespace Date

@[simp] theorem faultsOnly_ofSerial
    (serial : Float) :
    FaultsOnly allowed (ofSerial serial) := by
  unfold ofSerial
  split
  · simp
  · split <;> simp

@[simp] theorem faultsOnly_ofText
    (text : String) :
    FaultsOnly allowed (ofText text) := by
  unfold ofText
  split <;> simp

end Date

theorem Value.faultsOnly_toDate
    {value : Value}
    (hGreat : value.IsTooGreat → allowed .wholeTooGreat) :
    FaultsOnly allowed value.toDate := by
  cases value with
  | number x => simp [Value.toDate]
  | text s =>
      simp only [Value.toDate]
      split
      · simp
      · rw [FaultsOnly.bind_iff]
        refine ⟨faultsOnly_numberOfText hGreat,
          fun x? _ => ?_⟩
        cases x? <;> simp

end Spreadsheet

------------------------------------------------------------
-- Slips Of Calls
------------------------------------------------------------

namespace Spreadsheet

namespace Function

/- The functions that round at a decimal place. -/
def isRounding :
    Function → Bool
  | round => true
  | roundDown => true
  | roundUp => true
  | _ => false

/- The functions whose second argument is a criterion. -/
def hasCriterion :
    Function → Bool
  | averageIf => true
  | countIf => true
  | sumIf => true
  | _ => false

end Function

/-
  The faults of calls and what they come from.  A text that is
  too great may be an argument or the operand of a criterion.
  The other faults are those of functions that scale, repeat,
  join, replace or measure without a look at what they are
  given.
-/
inductive Call.Slips
    (call : Call) :
    Failure → Prop where
  | value
      {value : Value}
      (hValue : value ∈ call.values)
      (hGreat : value.IsTooGreat) :
      Slips call .wholeTooGreat
  | criterion
      {criterion : String}
      (hFunction : call.function.hasCriterion = true)
      (hCriterion : call.word 1 = .ok criterion)
      (hGreat : (Criterion.ofText criterion).IsTooGreat) :
      Slips call .wholeTooGreat
  | factor
      {places factor : Float}
      (hFunction : call.function.isRounding = true)
      (hPlaces : call.number 1 = .ok places)
      (hFactor : Number.power 10.0 places = .ok factor)
      (hZero : (factor == 0.0) = true) :
      Slips call .zeroFactor
  | count
      {count : Nat}
      (hFunction : call.function = .rept)
      (hCount : call.size 1 .empty = .ok count)
      (hGreat : lengthLimit ≤ count) :
      Slips call .countTooGreat
  | length
      {text : List Char}
      {count : Nat}
      (hFunction : call.function = .rept)
      (hText : call.chars 0 = .ok text)
      (hCount : call.size 1 .empty = .ok count)
      (hLong : lengthLimit ≤ text.length * count) :
      Slips call .textTooLong
  | joined
      (hFunction : call.function = .concatenate)
      (hLong : lengthLimit ≤ call.joinedLength) :
      Slips call .joinedTooLong
  | replaced
      {text old new : List Char}
      (hFunction : call.function = .substitute)
      (hReplacing : call.replacing = .ok (text, old, new))
      (hLong : Text.outgrows old new text = true) :
      Slips call .replacedTooLong
  | infinity
      {xs : List Float}
      {x : Float}
      (hFunction : call.function = .stdev)
      (hNumbers : call.numbers = .ok xs)
      (hMember : x ∈ xs)
      (hInfinite : Number.isFinite x = false) :
      Slips call .spreadOfInfinity
  | spread
      {xs : List Float}
      {variance : Nat × Nat}
      (hFunction : call.function = .stdev)
      (hNumbers : call.numbers = .ok xs)
      (hVariance : Number.variance? xs = some variance)
      (hGreat :
        Number.exceeds (Number.spread variance).1
          (Number.spread variance).2 = true) :
      Slips call .spreadTooGreat

/- A slip of a call is a fault of the machine. -/
theorem Call.Slips.isFormulaError
    {call : Call}
    {failure : Failure}
    (hSlips : call.Slips failure) :
    failure.isFormulaError = false := by
  cases hSlips <;> rfl

end Spreadsheet

------------------------------------------------------------
-- Arguments
------------------------------------------------------------

namespace Spreadsheet

namespace Argument

variable {allowed : Failure → Prop}

@[simp] theorem faultsOnly_single
    (argument : Argument) :
    FaultsOnly allowed argument.single := by
  unfold single
  split <;> simp

/- The one value of an argument is one of its values. -/
theorem mem_values_of_single
    {argument : Argument}
    {value : Value}
    (hSingle : argument.single = .ok value) :
    value ∈ argument.values := by
  unfold single at hSingle
  split at hSingle <;> cases hSingle <;> simp [values]

theorem faultsOnly_total
    {argument : Argument}
    (hGreat : ∀ value ∈ argument.values,
      value.IsTooGreat → allowed .wholeTooGreat) :
    FaultsOnly allowed argument.total := by
  cases argument with
  | scalar value => simp [total]
  | area values =>
      rw [total, FaultsOnly.map_iff]
      exact Value.faultsOnly_totalOf hGreat

/- A total that is too great is a value itself, not a sum. -/
theorem mem_values_of_total
    {argument : Argument}
    {value : Value}
    (hTotal : argument.total = .ok value)
    (hGreat : value.IsTooGreat) :
    value ∈ argument.values := by
  cases argument with
  | scalar other =>
      cases hTotal
      exact List.mem_singleton_self _
  | area values =>
      rw [total] at hTotal
      cases hNumbers : Value.totalOf values with
      | error failure => simp [hNumbers, Except.map] at hTotal
      | ok x =>
          rw [hNumbers] at hTotal
          cases hTotal
          exact absurd hGreat (Value.not_isTooGreat_number x)

end Argument

namespace Call

variable (call : Call)
variable (index : Nat)

/-
  A great value of an argument is one of the call; a value for
  an argument that was left out is not great.
-/
theorem slips_of_mem_argument
    {call : Call}
    {index : Nat}
    {missing value : Value}
    (hMissing : ¬missing.IsTooGreat)
    (hValue : value ∈ (call.argument index missing).values)
    (hGreat : value.IsTooGreat) :
    call.Slips .wholeTooGreat := by
  unfold argument at hValue
  rw [List.getD_eq_getElem?_getD] at hValue
  cases hArgument : call.arguments[index]? with
  | none =>
      rw [hArgument] at hValue
      rcases List.mem_singleton.mp hValue with rfl
      exact absurd hGreat hMissing
  | some argument =>
      rw [hArgument] at hValue
      refine .value ?_ hGreat
      exact List.mem_flatMap.mpr
        ⟨argument, List.mem_of_getElem? hArgument, hValue⟩

theorem faultsOnly_numberOr
    {missing : Value}
    (hMissing : ¬missing.IsTooGreat) :
    FaultsOnly call.Slips (call.numberOr index missing) := by
  rw [numberOr, Argument.toNumber, FaultsOnly.bind_iff]
  refine ⟨by simp, fun value hValue => ?_⟩
  exact Value.faultsOnly_toNumber
    (slips_of_mem_argument hMissing
      (Argument.mem_values_of_single hValue))

@[simp] theorem faultsOnly_number :
    FaultsOnly call.Slips (call.number index) :=
  call.faultsOnly_numberOr index Value.not_isTooGreat_empty

@[simp] theorem faultsOnly_word :
    FaultsOnly call.Slips (call.word index) := by
  simp [word, Argument.toText]

@[simp] theorem faultsOnly_chars :
    FaultsOnly call.Slips (call.chars index) := by
  simp [chars]

@[simp] theorem faultsOnly_numbers :
    FaultsOnly call.Slips call.numbers :=
  Value.faultsOnly_numbers fun _ => .value

theorem faultsOnly_size
    {missing : Value}
    (hMissing : ¬missing.IsTooGreat) :
    FaultsOnly call.Slips (call.size index missing) := by
  rw [size, FaultsOnly.bind_iff]
  refine ⟨call.faultsOnly_numberOr index hMissing,
    fun x _ => ?_⟩
  split <;> simp

@[simp] theorem faultsOnly_start :
    FaultsOnly call.Slips (call.start index) := by
  rw [start, FaultsOnly.bind_iff]
  refine ⟨call.faultsOnly_numberOr index (by simp),
    fun x _ => ?_⟩
  split <;> simp

theorem faultsOnly_total
    {missing : Value}
    (hMissing : ¬missing.IsTooGreat) :
    FaultsOnly call.Slips
      (call.argument index missing).total :=
  Argument.faultsOnly_total fun _ =>
    slips_of_mem_argument hMissing

end Call

end Spreadsheet

------------------------------------------------------------
-- Functions That Slip
------------------------------------------------------------

namespace Spreadsheet

namespace Call

variable (call : Call)

/- A scaled number is divided by its factor, even by zero. -/
theorem faultsOnly_roundWith
    (hFunction : call.function.isRounding = true)
    {whole : Float → Except Failure Float}
    (hWhole : ∀ x, FaultsOnly call.Slips (whole x)) :
    FaultsOnly call.Slips (call.roundWith whole) := by
  simp only [roundWith, FaultsOnly.bind_iff,
    FaultsOnly.ite_iff, FaultsOnly.throw_iff]
  refine ⟨by simp, fun x _ => ⟨by simp, fun places hPlaces =>
    ⟨by simp, fun factor hFactor => ⟨hWhole _, ?_⟩⟩⟩⟩
  intro n _
  refine ⟨fun hZero => ⟨fun _ => ?_, by simp⟩, by simp⟩
  exact .factor hFunction hPlaces hFactor hZero

/- A text is repeated however long that makes it. -/
theorem faultsOnly_repetition
    (hFunction : call.function = .rept) :
    FaultsOnly call.Slips call.repetition := by
  simp only [repetition, FaultsOnly.bind_iff,
    FaultsOnly.ite_iff, FaultsOnly.throw_iff]
  refine ⟨by simp, fun text hText =>
    ⟨call.faultsOnly_size 1 Value.not_isTooGreat_empty,
      fun count hCount => ?_⟩⟩
  refine ⟨fun hGreat =>
    ⟨fun _ => .count hFunction hCount hGreat, by simp⟩,
    fun _ => ?_⟩
  refine ⟨fun hLong =>
    ⟨fun _ => .length hFunction hText hCount hLong, by simp⟩,
    by simp⟩

/- The spread is measured of infinite numbers, too. -/
theorem faultsOnly_stdev
    (hFunction : call.function = .stdev) :
    FaultsOnly call.Slips call.stdev := by
  simp only [stdev, FaultsOnly.bind_iff, FaultsOnly.ite_iff]
  refine ⟨by simp, fun xs hNumbers => ⟨by simp, fun _ => ?_⟩⟩
  refine ⟨?_, by simp⟩
  rw [Number.spreadOf]
  cases hVariance : Number.variance? xs with
  | none =>
      rcases Number.exists_of_variance_eq_none hVariance with
        ⟨x, hMember, hInfinite⟩
      simpa using
        Slips.infinity hFunction hNumbers hMember hInfinite
  | some variance =>
      simp only [Number.roundedSpread, FaultsOnly.ite_iff,
        FaultsOnly.error_iff]
      refine ⟨fun hGreat _ => ?_, by simp⟩
      exact .spread hFunction hNumbers hVariance hGreat

theorem faultsOnly_targets
    (hFunction : call.function.hasCriterion = true) :
    FaultsOnly call.Slips call.targets := by
  rw [targets, FaultsOnly.bind_iff]
  refine ⟨by simp, fun criterion hCriterion => ?_⟩
  have hList :
      ∀ index, ∀ value ∈ call.list index,
        value.IsTooGreat → call.Slips .wholeTooGreat :=
    fun index _ =>
      slips_of_mem_argument Value.not_isTooGreat_empty
  apply faultsOnly_matchingTargets (hList 0)
  · split
    · exact hList 0
    · exact hList 2
  · exact .criterion hFunction hCriterion

theorem faultsOnly_countIf
    (hFunction : call.function.hasCriterion = true) :
    FaultsOnly call.Slips call.countIf := by
  rw [countIf, FaultsOnly.bind_iff]
  refine ⟨by simp, fun criterion hCriterion => ?_⟩
  rw [FaultsOnly.bind_iff]
  refine ⟨?_, by simp⟩
  apply faultsOnly_countMatching
  · exact fun _ =>
      slips_of_mem_argument Value.not_isTooGreat_empty
  · exact .criterion hFunction hCriterion

end Call

end Spreadsheet

------------------------------------------------------------
-- Answers
------------------------------------------------------------

namespace Spreadsheet

/-
  The faults of an answer are allowed ones; what is drawn or
  read off the clock adds none, and the memory only the one
  that it has run out.
-/
def Answer.FaultsOnly
    (allowed : Failure → Prop) :
    Answer → Prop
  | .settled result => Spreadsheet.FaultsOnly allowed result
  | .drawing result =>
      ∀ random, Spreadsheet.FaultsOnly (fun _ => False)
        (result random)
  | .dating result =>
      ∀ now, Spreadsheet.FaultsOnly (fun _ => False)
        (result now)
  | .fitting _ result =>
      ∀ fits, Spreadsheet.FaultsOnly (· = .noMemory)
        (result fits)

namespace Call

variable (call : Call)

@[simp] theorem faultsOnly_multipleWith
    {whole : Float → Except Failure Float}
    (hWhole : ∀ x, FaultsOnly call.Slips (whole x)) :
    FaultsOnly call.Slips (call.multipleWith whole) := by
  simp [multipleWith, hWhole, call.faultsOnly_numberOr 1]

@[simp] theorem faultsOnly_logarithm :
    FaultsOnly call.Slips call.logarithm := by
  simp [logarithm, call.faultsOnly_numberOr 1]

@[simp] theorem faultsOnly_ifElse :
    FaultsOnly call.Slips call.ifElse := by
  simp only [ifElse, FaultsOnly.bind_iff,
    FaultsOnly.ite_iff]
  refine ⟨call.faultsOnly_total 0 Value.not_isTooGreat_empty,
    fun condition hCondition => ?_⟩
  refine ⟨Value.faultsOnly_isTrue fun hGreat =>
    slips_of_mem_argument Value.not_isTooGreat_empty
      (Argument.mem_values_of_total hCondition hGreat) hGreat,
    fun _ _ => ⟨fun _ => ?_, fun _ => ?_⟩⟩
  · exact call.faultsOnly_total 1
      (Value.not_isTooGreat_ofBool true)
  · exact call.faultsOnly_total 2
      (Value.not_isTooGreat_ofBool false)

@[simp] theorem faultsOnly_conjunction :
    FaultsOnly call.Slips call.conjunction := by
  rw [conjunction, FaultsOnly.map_iff]
  exact Value.faultsOnly_allTrue fun _ => .value

@[simp] theorem faultsOnly_disjunction :
    FaultsOnly call.Slips call.disjunction := by
  rw [disjunction, FaultsOnly.map_iff]
  exact Value.faultsOnly_someTrue fun _ => .value

@[simp] theorem faultsOnly_unfailed :
    FaultsOnly call.Slips call.unfailed :=
  call.faultsOnly_total 0 Value.not_isTooGreat_empty

@[simp] theorem faultsOnly_datePart
    (part : Date → Nat) :
    FaultsOnly call.Slips (call.datePart part) := by
  rw [datePart, FaultsOnly.bind_iff]
  refine ⟨by simp, fun value hValue => ?_⟩
  rw [FaultsOnly.bind_iff]
  refine ⟨Value.faultsOnly_toDate ?_, by simp⟩
  exact slips_of_mem_argument Value.not_isTooGreat_empty
    (Argument.mem_values_of_single hValue)

@[simp] theorem faultsOnly_locate
    (form : List Char → List Char) :
    FaultsOnly call.Slips (call.locate form) := by
  simp only [locate, FaultsOnly.bind_iff]
  refine ⟨by simp, fun _ _ => ⟨by simp, fun _ _ => ?_⟩⟩
  refine ⟨by simp, fun _ _ => ?_⟩
  split <;> simp

theorem faultsOnly_randomBetween :
    call.randomBetween.FaultsOnly call.Slips := by
  unfold randomBetween
  cases hBounds : call.bounds with
  | ok bounds =>
      intro random
      simp [Number.pick]
  | error failure =>
      have hFaults : FaultsOnly call.Slips call.bounds := by
        simp [bounds]
      rw [hBounds, FaultsOnly.error_iff] at hFaults
      exact (FaultsOnly.error_iff failure).mpr hFaults

theorem faultsOnly_repeatText
    (hFunction : call.function = .rept) :
    call.repeatText.FaultsOnly call.Slips := by
  unfold repeatText
  cases hRepetition : call.repetition with
  | ok repeated =>
      dsimp only
      split
      · simp [Answer.FaultsOnly]
      · split
        · simp [Answer.FaultsOnly]
        · intro fits
          cases fits <;> simp
  | error failure =>
      have hFaults := call.faultsOnly_repetition hFunction
      rw [hRepetition, FaultsOnly.error_iff] at hFaults
      exact (FaultsOnly.error_iff failure).mpr hFaults

/- The faults of the answer to a call are its slips. -/
theorem faultsOnly_answer :
    call.answer.FaultsOnly call.Slips := by
  have hSize :
      ∀ index missing, ¬missing.IsTooGreat →
        FaultsOnly call.Slips (call.size index missing) :=
    fun index _ => call.faultsOnly_size index
  have hAnswerOf :
      call.answerOf.FaultsOnly call.Slips := by
    unfold answerOf
    cases hFunction : call.function with
    | randBetween => exact call.faultsOnly_randomBetween
    | round =>
        exact call.faultsOnly_roundWith (by simp [hFunction,
          Function.isRounding]) (by simp)
    | roundDown =>
        exact call.faultsOnly_roundWith (by simp [hFunction,
          Function.isRounding]) (by simp)
    | roundUp =>
        exact call.faultsOnly_roundWith (by simp [hFunction,
          Function.isRounding]) (by simp)
    | rept => exact call.faultsOnly_repeatText hFunction
    | stdev => exact call.faultsOnly_stdev hFunction
    | countIf =>
        exact call.faultsOnly_countIf (by simp [hFunction,
          Function.hasCriterion])
    | sumIf =>
        simp [Answer.FaultsOnly, sumIf,
          call.faultsOnly_targets, hFunction,
          Function.hasCriterion]
    | averageIf =>
        simp [Answer.FaultsOnly, averageIf,
          call.faultsOnly_targets, hFunction,
          Function.hasCriterion]
    | _ =>
        simp [Answer.FaultsOnly, abs, average, ceiling,
          concatenate, count, countA, exponential, find,
          floor, int, left, len, naturalLogarithm, lower,
          maximum, median, mid, minimum, mod, negation, pi,
          power, product, replacing, right, search, sign,
          sqrt, substitute, sum, text, trim, upper, value,
          hSize]
  unfold answer check checkLimit
  cases call.function.limit? with
  | none => exact hAnswerOf
  | some limit =>
      by_cases hLimit : limit < call.arguments.length
      · simp [hLimit, Answer.FaultsOnly]
      · simpa [hLimit] using hAnswerOf

/- A text that is too long has been joined or replaced. -/
theorem slips_of_overlong
    {failure : Failure}
    (hOverlong : call.overlong? = some failure) :
    call.Slips failure := by
  unfold overlong? at hOverlong
  split at hOverlong
  · rename_i hFunction
    split at hOverlong
    · rename_i hLong
      cases hOverlong
      exact .joined hFunction hLong
    · cases hOverlong
  · rename_i hFunction
    split at hOverlong
    · rename_i hReplacing
      split at hOverlong
      · rename_i hLong
        cases hOverlong
        exact .replaced hFunction hReplacing hLong
      · cases hOverlong
    · cases hOverlong
  · cases hOverlong

/- The faults with which a call is delivered are its slips. -/
theorem faultsOnly_delivered :
    call.delivered.FaultsOnly call.Slips := by
  rcases call.delivered_cases with hAnswer | hFailed
  · rw [hAnswer]
    exact call.faultsOnly_answer
  · rcases hFailed with ⟨failure, hOverlong, hFailed⟩
    rw [hFailed]
    exact (FaultsOnly.error_iff failure).mpr fun _ =>
      call.slips_of_overlong hOverlong

end Call

end Spreadsheet
