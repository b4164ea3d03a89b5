import Spreadsheet.Function.Answer
import Spreadsheet.Proofs.Function.Conditional
import Spreadsheet.Proofs.Number.Sorted

/-
  Aggregates of values in any order.

  An aggregate sees of its values only the numbers among them.
  Values in another order have the same numbers in another
  order, and values that have no number leave no trace among
  the numbers.  The least, the greatest and the middle number
  are found in any order, and a count and a spread do not
  depend on it.

  Key definitions include:
    * `Spreadsheet.Value.counted?`
    * `Spreadsheet.Value.Padded`
    * `Spreadsheet.Answer.Alike`

  Main results:
    * `Spreadsheet.Value.numbers_of_perm`
    * `Spreadsheet.Value.numbers_of_padded`
    * `Spreadsheet.Number.variance?_of_perm`
    * `Spreadsheet.Call.aggregates_ignore_order`
-/

------------------------------------------------------------
-- Numbers In Another Order
------------------------------------------------------------

namespace Spreadsheet

namespace Value

/- The number that a value adds to others, if any. -/
def counted?
    (value : Value) :
    Option Float :=
  value.contribution.toOption.join

/- A value contributes to a total or is too great. -/
theorem contribution_failsOnly
    (value : Value) :
    FailsOnly (· = .wholeTooGreat) value.contribution := by
  rw [contribution, FailsOnly.ite_iff]
  exact ⟨fun _ => .of_ok _ _,
    fun _ => value.toNumber?_failsOnly⟩

/-
  The numbers among values are those that they contribute one
  by one, unless one of them is too great.
-/
theorem numbers_eq
    (values : List Value) :
    numbers values =
      if values.all fun value => value.contribution.isOk then
        .ok (values.filterMap counted?)
      else
        .error .wholeTooGreat := by
  -- A value that is too great fails at once, and otherwise the
  -- rest decides; all failures are alike, so order is lost.
  induction values with
  | nil => rfl
  | cons value rest ih =>
      rw [numbers, ih, List.all_cons, List.filterMap_cons,
        counted?]
      cases hHere : value.contribution with
      | error failure =>
          rw [value.contribution_failsOnly failure hHere]
          rfl
      | ok x? =>
          by_cases hRest :
              (rest.all fun value =>
                value.contribution.isOk) = true
          · rw [hRest]
            cases x? with
            | none => rfl
            | some x => rfl
          · rw [Bool.not_eq_true] at hRest
            rw [hRest]
            rfl

/- Values in another order have their numbers in another. -/
theorem numbers_of_perm
    {values others : List Value}
    (hPerm : others.Perm values) :
    (∃ xs ys, numbers values = .ok xs ∧
        numbers others = .ok ys ∧ ys.Perm xs) ∨
      ∃ failure, numbers values = .error failure ∧
        numbers others = .error failure := by
  rw [numbers_eq values, numbers_eq others, hPerm.all_eq]
  split
  · exact .inl ⟨_, _, rfl, rfl, hPerm.filterMap _⟩
  · exact .inr ⟨_, rfl, rfl⟩

/- A number among values is the number of one of them. -/
theorem exists_of_mem_numbers
    {values : List Value}
    {xs : List Float}
    (hNumbers : numbers values = .ok xs)
    {x : Float}
    (hX : x ∈ xs) :
    ∃ value ∈ values, value.toNumber? = .ok (some x) := by
  have hList : xs = values.filterMap counted? := by
    rw [numbers_eq] at hNumbers
    split at hNumbers
    · exact (Except.ok.inj hNumbers).symm
    · cases hNumbers
  rw [hList, List.mem_filterMap] at hX
  rcases hX with ⟨value, hMember, hCounted⟩
  refine ⟨value, hMember, ?_⟩
  rw [counted?, contribution] at hCounted
  split at hCounted
  · cases hCounted
  · cases hNumber : value.toNumber? with
    | error failure =>
        rw [hNumber] at hCounted
        cases hCounted
    | ok x? =>
        rw [hNumber] at hCounted
        exact congrArg Except.ok hCounted

end Value

end Spreadsheet

------------------------------------------------------------
-- Values Without Numbers
------------------------------------------------------------

namespace Spreadsheet

namespace Value

/- A value is empty or is a text that is no number. -/
def IsIdle
    (value : Value) : Prop :=
  value.isBlank = true ∨ value.toNumber? = .ok none

/-
  Values with further ones that are empty or no numbers
  anywhere among them.
-/
inductive Padded :
    List Value → List Value → Prop
  | nil : Padded [] []
  | keep
      (value : Value)
      {values padded : List Value}
      (hRest : Padded values padded) :
      Padded (value :: values) (value :: padded)
  | insert
      (value : Value)
      (hIdle : value.IsIdle)
      {values padded : List Value}
      (hRest : Padded values padded) :
      Padded values (value :: padded)

/- Such a value adds no number. -/
theorem IsIdle.contribution_eq
    {value : Value}
    (hIdle : value.IsIdle) :
    value.contribution = .ok none := by
  rw [contribution]
  rcases hIdle with hBlank | hNone
  · rw [if_pos hBlank]
  · rw [hNone, ite_self]

/- Values that are padded so have the same numbers. -/
theorem numbers_of_padded
    {values padded : List Value}
    (hPadded : Padded values padded) :
    numbers padded = numbers values := by
  induction hPadded with
  | nil => rfl
  | keep value _ ih => rw [numbers, numbers, ih]
  | insert value hIdle _ ih =>
      rw [numbers, hIdle.contribution_eq, ih]
      cases numbers _ with
      | ok xs => rfl
      | error failure => rfl

end Value

end Spreadsheet

------------------------------------------------------------
-- Spreads In Any Order
------------------------------------------------------------

namespace Spreadsheet

namespace Number

/- Floats are measured one by one if all are finite. -/
theorem mapM_units?
    (xs : List Float) :
    xs.mapM units? =
      if xs.all fun x => (units? x).isSome then
        some (xs.filterMap units?)
      else
        none := by
  induction xs with
  | nil => rfl
  | cons x xs ih =>
      rw [List.mapM_cons, ih, List.all_cons,
        List.filterMap_cons]
      cases units? x with
      | none => rfl
      | some n =>
          cases xs.all fun x => (units? x).isSome with
          | false => rfl
          | true => rfl

/- The variance of integers does not depend on their order. -/
theorem varianceOf_of_perm
    {ms ns : List Int}
    (hPerm : ns.Perm ms) :
    varianceOf ns = varianceOf ms := by
  rw [varianceOf, varianceOf, hPerm.length_eq,
    hPerm.foldl_eq, (hPerm.map _).foldl_eq]

/- Nor does that of floats, or that there is none. -/
theorem variance?_of_perm
    {xs ys : List Float}
    (hPerm : ys.Perm xs) :
    variance? ys = variance? xs := by
  rw [variance?, variance?, mapM_units? xs, mapM_units? ys,
    hPerm.all_eq]
  split
  · exact congrArg some
      (varianceOf_of_perm (hPerm.filterMap _))
  · rfl

end Number

end Spreadsheet

------------------------------------------------------------
-- Aggregates
------------------------------------------------------------

namespace Spreadsheet

/-
  Two answers are numbers that stand in a relation, or the
  same failure.
-/
inductive Answer.Alike
    (Same : Float → Float → Prop) :
    Answer → Answer → Prop
  | numbers
      {x y : Float}
      (hSame : Same x y) :
      Alike Same (.settled (.ok (.number x)))
        (.settled (.ok (.number y)))
  | failures
      (failure : Failure) :
      Alike Same (.settled (.error failure))
        (.settled (.error failure))

namespace Call

open Number (isNaN)

/-
  A function of the numbers among values gives alike answers
  to values in another order if it does to the numbers.
-/
theorem alike_of_perm
    {Same : Float → Float → Prop}
    (total : List Float → Float)
    {values others : List Value}
    (hPerm : others.Perm values)
    (hSame : ∀ xs ys,
      Value.numbers values = .ok xs → ys.Perm xs →
        Same (total ys) (total xs)) :
    Answer.Alike Same
      (.settled do
        return .number (total (← Value.numbers others)))
      (.settled do
        return .number (total (← Value.numbers values))) := by
  rcases Value.numbers_of_perm hPerm with
    ⟨xs, ys, hXs, hYs, hNumbers⟩ | ⟨failure, hXs, hYs⟩
  · rw [hXs, hYs]
    exact .numbers (hSame xs ys hXs hNumbers)
  · rw [hXs, hYs]
    exact .failures failure

/- The numbers among defined values are defined. -/
theorem defined_numbers
    {values : List Value}
    (hDefined : ∀ value ∈ values, ∀ x,
      value.toNumber? = .ok (some x) → isNaN x = false)
    {xs : List Float}
    (hNumbers : Value.numbers values = .ok xs) :
    Number.Defined xs := by
  intro x hX
  rcases Value.exists_of_mem_numbers hNumbers hX with
    ⟨value, hMember, hNumber⟩
  exact hDefined value hMember x hNumber

/-
  What is concluded from numbers in any order is the same for
  values in another order.
-/
theorem conclusion_of_perm
    {conclude : List Float → Except Failure Value}
    (hSame : ∀ xs ys, ys.Perm xs → conclude ys = conclude xs)
    {values others : List Value}
    (hPerm : others.Perm values) :
    Value.numbers others >>= conclude =
      Value.numbers values >>= conclude := by
  rcases Value.numbers_of_perm hPerm with
    ⟨xs, ys, hXs, hYs, hNumbers⟩ | ⟨failure, hXs, hYs⟩
  · rw [hXs, hYs]
    exact hSame xs ys hNumbers
  · rw [hXs, hYs]

variable {arguments others : List Argument}

/- Counts and spreads are the same in any order. -/
theorem answer_eq_of_perm
    (hPerm : (Argument.flatten others).Perm
      (Argument.flatten arguments)) :
    ∀ function ∈
        [Function.count, Function.countA, Function.stdev],
      answer ⟨function, others⟩ =
        answer ⟨function, arguments⟩ := by
  have hCount :
      answer ⟨.count, others⟩ = answer ⟨.count, arguments⟩ :=
    congrArg Answer.settled <|
      conclusion_of_perm
        (fun xs ys hNumbers => by rw [hNumbers.length_eq])
        hPerm
  have hCountA :
      answer ⟨.countA, others⟩ =
        answer ⟨.countA, arguments⟩ := by
    have hFilled :=
      (hPerm.filter fun value => !value.isBlank).length_eq
    change Answer.settled (.ok (.number (Number.ofInt _))) =
      .settled (.ok (.number (Number.ofInt _)))
    exact congrArg
      (fun count : Nat =>
        Answer.settled (.ok (.number (Number.ofInt count))))
      hFilled
  have hStdev :
      answer ⟨.stdev, others⟩ = answer ⟨.stdev, arguments⟩ :=
    congrArg Answer.settled <|
      conclusion_of_perm
        (fun xs ys hNumbers => by
          rw [hNumbers.length_eq, Number.spreadOf,
            Number.spreadOf, Number.variance?_of_perm hNumbers])
        hPerm
  rw [List.forall_mem_cons, List.forall_mem_cons,
    List.forall_mem_singleton]
  exact ⟨hCount, hCountA, hStdev⟩

/- An aggregate of numbers sees nothing but the numbers. -/
theorem answer_eq_of_numbers
    (hNumbers :
      Value.numbers (Argument.flatten others) =
        Value.numbers (Argument.flatten arguments)) :
    ∀ function ∈
        [Function.min, Function.max, Function.median,
          Function.stdev, Function.count],
      answer ⟨function, others⟩ =
        answer ⟨function, arguments⟩ := by
  have hSame :
      ∀ conclude : List Float → Except Failure Value,
        Answer.settled
            (Value.numbers (Argument.flatten others) >>=
              conclude) =
          .settled
            (Value.numbers (Argument.flatten arguments) >>=
              conclude) :=
    fun conclude => by rw [hNumbers]
  simp only [List.forall_mem_cons]
  exact ⟨hSame _, hSame _, hSame _, hSame _, hSame _,
    List.forall_mem_nil _⟩

/-
  An aggregate does not depend on the order of the values in
  its arguments, and values without a number may be put among
  them anywhere.
-/
theorem aggregates_ignore_order
    (arguments others : List Argument) :
    ((Argument.flatten others).Perm
        (Argument.flatten arguments) →
      ((∀ value ∈ Argument.flatten arguments, ∀ x,
          value.toNumber? = .ok (some x) →
            isNaN x = false) →
        Answer.Alike (fun x y => (x == y) = true)
            (answer ⟨.min, others⟩)
            (answer ⟨.min, arguments⟩) ∧
          Answer.Alike (fun x y => (x == y) = true)
            (answer ⟨.max, others⟩)
            (answer ⟨.max, arguments⟩) ∧
          Answer.Alike Number.Coincide
            (answer ⟨.median, others⟩)
            (answer ⟨.median, arguments⟩)) ∧
      ∀ function ∈
          [Function.count, Function.countA, Function.stdev],
        answer ⟨function, others⟩ =
          answer ⟨function, arguments⟩) ∧
    (Value.Padded (Argument.flatten arguments)
        (Argument.flatten others) →
      ∀ function ∈
          [Function.min, Function.max, Function.median,
            Function.stdev, Function.count],
        answer ⟨function, others⟩ =
          answer ⟨function, arguments⟩) := by
  constructor
  · intro hPerm
    constructor
    · intro hDefined
      refine ⟨?_, ?_, ?_⟩
      · exact alike_of_perm Number.least hPerm
          fun xs ys hNumbers hOrder =>
            Number.least_of_perm
              (defined_numbers hDefined hNumbers) hOrder
      · exact alike_of_perm Number.greatest hPerm
          fun xs ys hNumbers hOrder =>
            Number.greatest_of_perm
              (defined_numbers hDefined hNumbers) hOrder
      · exact alike_of_perm Number.median hPerm
          fun xs ys hNumbers hOrder =>
            Number.median_of_perm
              (defined_numbers hDefined hNumbers) hOrder
    · exact answer_eq_of_perm hPerm
  · intro hPadded
    exact answer_eq_of_numbers
      (Value.numbers_of_padded hPadded)

/-
  A number, a numeral, white space, an empty text and a word
  in two orders, and with another empty text and word.
-/
theorem aggregates_ignore_order_of_mixed :
    let mixed :=
      [Argument.area [.text "3", .text "", .text "x"],
        .scalar (.number 1.0), .scalar (.text " ")]
    let turned :=
      [Argument.scalar (.text " "), .scalar (.number 1.0),
        .area [.text "x", .text "3", .text ""]]
    let padded :=
      [Argument.area
          [.text "3", .text "", .text "y", .text "x"],
        .scalar (.number 1.0), .area [.text "", .text " "]]
    (Answer.Alike (fun x y => (x == y) = true)
        (answer ⟨.min, turned⟩) (answer ⟨.min, mixed⟩) ∧
      Answer.Alike (fun x y => (x == y) = true)
        (answer ⟨.max, turned⟩) (answer ⟨.max, mixed⟩) ∧
      Answer.Alike Number.Coincide
        (answer ⟨.median, turned⟩)
        (answer ⟨.median, mixed⟩)) ∧
    (∀ function ∈
        [Function.count, Function.countA, Function.stdev],
      answer ⟨function, turned⟩ =
        answer ⟨function, mixed⟩) ∧
    ∀ function ∈
        [Function.min, Function.max, Function.median,
          Function.stdev, Function.count],
      answer ⟨function, padded⟩ =
        answer ⟨function, mixed⟩ := by
  intro mixed turned padded
  have hPerm :
      (Argument.flatten turned).Perm
        (Argument.flatten mixed) := by
    decide +kernel
  have hDefined :
      ∀ value ∈ Argument.flatten mixed, ∀ x,
        value.toNumber? = .ok (some x) →
          isNaN x = false := by
    have hAll :
        ((Argument.flatten mixed).all fun value =>
          value.toNumber?.toOption.join.all fun x =>
            !isNaN x) = true := by
      decide +kernel
    intro value hMember x hNumber
    have hHere := List.all_eq_true.mp hAll value hMember
    rw [hNumber] at hHere
    change (!isNaN x) = true at hHere
    rwa [Bool.not_eq_true'] at hHere
  have hPadded :
      Value.Padded (Argument.flatten mixed)
        (Argument.flatten padded) := by
    have hWord : (Value.text "y").IsIdle := .inr rfl
    have hEmpty : (Value.text "").IsIdle := .inl rfl
    exact .keep _ (.keep _ (.insert _ hWord (.keep _
      (.keep _ (.insert _ hEmpty (.keep _ .nil))))))
  have hOrder := aggregates_ignore_order mixed turned
  have hMore := aggregates_ignore_order mixed padded
  exact ⟨(hOrder.1 hPerm).1 hDefined, (hOrder.1 hPerm).2,
    hMore.2 hPadded⟩

end Call

end Spreadsheet
