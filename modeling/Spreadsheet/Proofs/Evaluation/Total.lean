import Spreadsheet.Proofs.Evaluation.Area
import Spreadsheet.Proofs.Evaluation.Conditional
import Spreadsheet.Proofs.Function.Aggregate

/-
  Areas in place of values.

  As a whole formula, as an operand and as an argument of a
  choice or an attempt an area stands for the total of its
  values, and so does a call that sums them up.  One can be
  put in the place of the other at any depth: the run of the
  formula is the same.  A choice takes the total of an area
  only if it decides for it, so that the total must not fail
  where the sum would be evaluated.

  Key definitions include:
    * `Spreadsheet.Expr.Place`
    * `Spreadsheet.Expr.Place.fill`
    * `Spreadsheet.Expr.Place.IsScalar`
    * `Spreadsheet.Expr.Place.moment?`

  Main results:
    * `Spreadsheet.Expr.value_sum_range`
    * `Spreadsheet.Call.answer_ifElse_congr`
    * `Spreadsheet.Expr.Place.outcome_fill_sum`
-/

------------------------------------------------------------
-- Places In Formulas
------------------------------------------------------------

namespace Spreadsheet

namespace Expr

/- A place in a formula, with all that is around it. -/
inductive Place where
  | whole
  | operand (op : UnaryOp) (inner : Place)
  | left (op : BinaryOp) (inner : Place) (other : Expr)
  | right (op : BinaryOp) (other : Expr) (inner : Place)
  | argument
      (name : String)
      (before : List Expr)
      (inner : Place)
      (after : List Expr)

namespace Place

/- The formula with a part at the place. -/
def fill
    (part : Expr) :
    Place → Expr
  | whole => part
  | operand op inner => .unary op (inner.fill part)
  | left op inner other =>
      .binary op (inner.fill part) other
  | right op other inner =>
      .binary op other (inner.fill part)
  | argument name before inner after =>
      .call name (before ++ inner.fill part :: after)

/-
  One value is wanted at the place: it is not an argument of
  a function other than a choice or an attempt.
-/
def IsScalar :
    Place → Prop
  | whole => True
  | operand _ inner => inner.IsScalar
  | left _ inner _ => inner.IsScalar
  | right _ _ inner => inner.IsScalar
  | argument name _ whole _ =>
      Function.named? (upperName name) = some .ifElse ∨
        Function.named? (upperName name) = some .ifError
  | argument _ _ inner _ => inner.IsScalar

end Place

end Expr

end Spreadsheet

------------------------------------------------------------
-- Moments
------------------------------------------------------------

namespace Spreadsheet

namespace Inquiry

variable {α : Type}
variable (surroundings : Surroundings)
variable (resolve : Cell → Run Value)

/- The progress after an inquiry, if it finds a value. -/
def afterValue
    (inquiry : Inquiry α)
    (progress : Progress) :
    Option Progress :=
  match (inquiry.run surroundings resolve).outcome progress with
  | (.ok _, after) => some after
  | (.error _, _) => none

/- The progress after an inquiry, if its failure is caught. -/
def afterCaught
    (inquiry : Inquiry α)
    (progress : Progress) :
    Option Progress :=
  match (inquiry.run surroundings resolve).outcome progress with
  | (.ok _, _) => none
  | (.error failure, after) =>
      if failure.isCaught then some after else none

end Inquiry

namespace Expr

variable (surroundings : Surroundings)
variable (resolve : Cell → Run Value)

/-
  The progress at which an argument of an attempt is evaluated
  that has others before and behind it, and from there on that
  of a part of this argument.
-/
def attemptMoment?
    (before after : List Expr)
    (inner : Progress → Option Progress)
    (progress : Progress) :
    Option Progress :=
  match before, after with
  | [], [] => inner progress
  | [], [_] => inner progress
  | [tried], [] =>
      (tried.value.afterCaught surroundings resolve
        progress).bind inner
  | _, _ => none

/-
  The progress at which the part at a place is evaluated, if
  it is evaluated at all.
-/
def Place.moment? :
    Place → Progress → Option Progress
  | whole, progress => some progress
  | operand _ inner, progress => inner.moment? progress
  | left _ inner _, progress => inner.moment? progress
  | right _ other inner, progress =>
      (other.value.afterValue surroundings resolve
        progress).bind inner.moment?
  | argument name before inner after, progress =>
      if Function.named? (upperName name) = some .ifError then
        attemptMoment? surroundings resolve before after
          inner.moment? progress
      else
        ((argumentValues before).afterValue surroundings
          resolve progress).bind inner.moment?

end Expr

end Spreadsheet

------------------------------------------------------------
-- Totals And Sums
------------------------------------------------------------

namespace Spreadsheet

/- A total fails only if a value is too great. -/
theorem Value.totalOf_failsOnly
    (values : List Value) :
    FailsOnly (· = .wholeTooGreat) (totalOf values) := by
  intro failure hFailure
  rw [totalOf, numbers_eq] at hFailure
  split at hFailure
  · cases hFailure
  · exact (Except.error.inj hFailure).symm

namespace Expr

variable {name : String}

/- The sum of an area is the area as a value. -/
theorem value_sum_range
    (hSum : Function.named? (upperName name) = some .sum)
    (written : String) :
    (call name [.range written]).value =
      (range written).value := by
  have hAnswer :
      ∀ values : List Value,
        Inquiry.ofAnswer
            (Call.mk .sum (values.map .scalar)).delivered =
          .settled (Value.totalOf values) >>= fun total =>
            pure (.number total) := by
    intro values
    have hItems :
        Argument.flatten (values.map .scalar) = values := by
      rw [Argument.flatten, List.flatMap_map]
      exact List.flatMap_singleton' values
    change Inquiry.settled (Call.sum _) = _
    rw [Call.sum, Call.numbers, Call.values, hItems,
      Value.totalOf]
    cases Value.numbers values with
    | ok xs => rfl
    | error failure => rfl
  rw [value_call_of_isFlat hSum rfl, itemValues_range, value]
  exact bind_congr hAnswer

/- A call goes on with the value of each argument in turn. -/
theorem value_call_argument
    (hOther :
      Function.named? (upperName name) ≠ some .ifError)
    (before : List Expr)
    (argument : Expr)
    (after : List Expr) :
    (call name (before ++ argument :: after)).value =
      argumentValues before >>= fun first =>
        argument.argumentValue >>= fun found =>
          argumentValues after >>= fun rest =>
            Call.performNamed (upperName name)
              (first ++ found :: rest) := by
  rw [value]
  simp only [if_neg hOther, argumentValues_middle, bind_assoc,
    pure_bind]

end Expr

namespace Call

/- A choice sees of its arguments nothing but their totals. -/
theorem answer_ifElse_congr
    {arguments others : List Argument}
    (hTotals :
      others.map Argument.total =
        arguments.map Argument.total) :
    answer ⟨.ifElse, others⟩ = answer ⟨.ifElse, arguments⟩ := by
  have hLength : others.length = arguments.length := by
    simpa using congrArg List.length hTotals
  have hTotal :
      ∀ (arguments : List Argument) (index : Nat)
        (missing : Value),
        ((Call.mk .ifElse arguments).argument index
            missing).total =
          (arguments.map Argument.total).getD index
            (.ok missing) := by
    intro arguments index missing
    exact (List.getD_map arguments (.scalar missing)
      Argument.total).symm
  have hResult :
      ifElse ⟨.ifElse, others⟩ =
        ifElse ⟨.ifElse, arguments⟩ := by
    simp only [ifElse, hTotal, hTotals]
  have hAnswer :
      answerOf ⟨.ifElse, others⟩ =
        answerOf ⟨.ifElse, arguments⟩ :=
    congrArg Answer.settled hResult
  rw [answer, answer, check, check, hLength, hAnswer]

end Call

end Spreadsheet

------------------------------------------------------------
-- Runs With Equal Parts
------------------------------------------------------------

namespace Spreadsheet

namespace Inquiry

variable {α β : Type}
variable {surroundings : Surroundings}
variable {resolve : Cell → Run Value}
variable {inquiry other : Inquiry α}
variable {p : Progress}

/- Runs are the same if both of their parts are. -/
theorem outcome_bind_congr
    {follow follow' : α → Inquiry β}
    (hFirst :
      (other.run surroundings resolve).outcome p =
        (inquiry.run surroundings resolve).outcome p)
    (hFollow : ∀ value q,
      (inquiry.run surroundings resolve).outcome p =
        (.ok value, q) →
      ((follow' value).run surroundings resolve).outcome q =
        ((follow value).run surroundings resolve).outcome q) :
    ((other >>= follow').run surroundings resolve).outcome p =
      ((inquiry >>= follow).run surroundings
        resolve).outcome p := by
  cases hFound :
      (inquiry.run surroundings resolve).outcome p with
  | mk result q =>
      cases result with
      | ok value =>
          rw [outcome_bind_of_ok follow hFound,
            outcome_bind_of_ok follow' (hFirst.trans hFound)]
          exact hFollow value q hFound
      | error failure =>
          rw [outcome_bind_of_error follow hFound,
            outcome_bind_of_error follow'
              (hFirst.trans hFound)]

/- Attempts are the same if both of their parts are. -/
theorem outcome_orElse_congr
    {fallback fallback' : Inquiry α}
    (hFirst :
      (other.run surroundings resolve).outcome p =
        (inquiry.run surroundings resolve).outcome p)
    (hFallback : ∀ q ∈
        inquiry.afterCaught surroundings resolve p,
      (fallback'.run surroundings resolve).outcome q =
        (fallback.run surroundings resolve).outcome q) :
    ((other.orElse fallback').run surroundings
        resolve).outcome p =
      ((inquiry.orElse fallback).run surroundings
        resolve).outcome p := by
  rw [orElse, orElse, outcome_andThen, outcome_andThen,
    hFirst]
  rw [afterCaught] at hFallback
  cases hFound :
      (inquiry.run surroundings resolve).outcome p with
  | mk result q =>
      cases result with
      | ok value => rfl
      | error failure =>
          rw [hFound] at hFallback
          rw [rescue, rescue]
          by_cases hCaught : failure.isCaught = true
          · rw [if_pos hCaught, if_pos hCaught]
            exact hFallback q (if_pos hCaught)
          · rw [if_neg hCaught, if_neg hCaught]

end Inquiry

end Spreadsheet

------------------------------------------------------------
-- Sums In Places
------------------------------------------------------------

namespace Spreadsheet

namespace Expr

namespace Place

variable {surroundings : Surroundings}
variable {resolve : Cell → Run Value}
variable {p : Progress}
variable {name : String}

/- A choice with a sum of an area comes to that with it. -/
theorem outcome_choice_sum
    {choice : String}
    (hChoice :
      Function.named? (upperName choice) = some .ifElse)
    (hSum : Function.named? (upperName name) = some .sum)
    (written : String)
    (before after : List Expr)
    (hTotal : ∀ moment ∈
        (argumentValues before).afterValue surroundings
          resolve p,
      (((call name [.range written]).value.run surroundings
        resolve).outcome moment).1 ≠ .error .wholeTooGreat) :
    (((call choice (before ++
        call name [.range written] :: after)).value.run
          surroundings resolve).outcome p) =
      (((call choice (before ++
        .range written :: after)).value.run
          surroundings resolve).outcome p) := by
  have hOther :
      Function.named? (upperName choice) ≠ some .ifError := by
    rw [hChoice]
    decide
  rw [value_call_argument hOther, value_call_argument hOther]
  refine Inquiry.outcome_bind_congr rfl fun first q hFirst => ?_
  have hMoment :
      q ∈ (argumentValues before).afterValue surroundings
        resolve p := by
    rw [Inquiry.afterValue, hFirst]
    rfl
  have hSummed :
      (call name [.range written]).argumentValue =
        .scalar <$> (areaValues written >>= fun values =>
          .settled (Value.totalOf values) >>= fun total =>
            pure (.number total)) := by
    change Argument.scalar <$>
      (call name [.range written]).value = _
    rw [value_sum_range hSum, value]
  have hArea :
      (range written).argumentValue =
        .area <$> areaValues written :=
    rfl
  have hHere := hTotal q hMoment
  rw [value_sum_range hSum, value] at hHere
  rw [hSummed, hArea, bind_map_left, bind_map_left, bind_assoc]
  refine Inquiry.outcome_bind_congr rfl
    fun values after hValues => ?_
  rw [Inquiry.outcome_bind_of_ok _ hValues] at hHere
  cases hSumOf : Value.totalOf values with
  | error failure =>
      rw [hSumOf] at hHere
      exact absurd
        (congrArg Except.error
          (Value.totalOf_failsOnly values failure hSumOf))
        hHere
  | ok total =>
      have hFound :
          (Inquiry.settled (.ok total) >>= fun total =>
              pure (Value.number total)) =
            pure (.number total) :=
        rfl
      rw [hFound, pure_bind]
      refine Inquiry.outcome_bind_congr rfl fun rest _ _ => ?_
      have hTotals :
          (first ++ .scalar (.number total) :: rest).map
              Argument.total =
            (first ++ .area values :: rest).map
              Argument.total := by
        rw [List.map_append, List.map_append, List.map_cons,
          List.map_cons, Argument.total, Argument.total, hSumOf]
        rfl
      have hAnswers := Call.answer_ifElse_congr hTotals
      have hDelivered :
          ∀ arguments,
            (Call.ofArguments .ifElse arguments).delivered =
              Call.answer ⟨.ifElse, arguments⟩ :=
        fun arguments =>
          Call.delivered_of_ne ⟨.ifElse, arguments⟩
            (by rintro ⟨⟩) (by rintro ⟨⟩)
      simp only [Call.performNamed, hChoice, hDelivered]
      exact congrArg
        (fun answer =>
          ((Inquiry.ofAnswer answer).run surroundings
            resolve).outcome _) hAnswers

/- Another call comes to the same with equal arguments. -/
theorem outcome_call_congr
    {function : String}
    (hOther :
      Function.named? (upperName function) ≠ some .ifError)
    (before after : List Expr)
    {argument summed : Expr}
    (hSame : ∀ moment ∈
        (argumentValues before).afterValue surroundings
          resolve p,
      (summed.argumentValue.run surroundings
          resolve).outcome moment =
        (argument.argumentValue.run surroundings
          resolve).outcome moment) :
    (((call function (before ++ summed :: after)).value.run
        surroundings resolve).outcome p) =
      (((call function (before ++ argument :: after)).value.run
        surroundings resolve).outcome p) := by
  rw [value_call_argument hOther, value_call_argument hOther]
  refine Inquiry.outcome_bind_congr rfl fun first q hFirst => ?_
  have hMoment :
      q ∈ (argumentValues before).afterValue surroundings
        resolve p := by
    rw [Inquiry.afterValue, hFirst]
    rfl
  exact Inquiry.outcome_bind_congr (hSame q hMoment)
    fun _ _ _ => rfl

/- Where one value is wanted, it is also further inside. -/
theorem IsScalar.inner
    {function : String}
    {before after : List Expr}
    {inner : Place}
    (hScalar : (argument function before inner after).IsScalar) :
    inner.IsScalar := by
  cases inner with
  | whole => exact trivial
  | _ => exact hScalar

/- What is not put at the whole place is no area. -/
theorem argumentValue_fill
    {place : Place}
    (hInner : place ≠ whole)
    (part : Expr) :
    (place.fill part).argumentValue =
      .scalar <$> (place.fill part).value := by
  cases place with
  | whole => exact absurd rfl hInner
  | _ => rfl

/- An attempt with equal arguments comes to the same. -/
theorem outcome_attempt_congr
    (before after : List Expr)
    {argument summed : Expr}
    {inner : Progress → Option Progress}
    (hSame : ∀ q,
      (∀ moment ∈ inner q,
        moment ∈ attemptMoment? surroundings resolve before
          after inner p) →
      (summed.value.run surroundings resolve).outcome q =
        (argument.value.run surroundings resolve).outcome q) :
    ((attemptValue (before ++ summed :: after)).run
        surroundings resolve).outcome p =
      ((attemptValue (before ++ argument :: after)).run
        surroundings resolve).outcome p := by
  rcases before with _ | ⟨tried, _ | ⟨fallback, before⟩⟩
  · rcases after with _ | ⟨fallback, _ | ⟨more, after⟩⟩
    · exact Inquiry.outcome_orElse_congr
        (hSame p fun _ hMoment => hMoment) fun _ _ => rfl
    · exact Inquiry.outcome_orElse_congr
        (hSame p fun _ hMoment => hMoment) fun _ _ => rfl
    · rfl
  · rcases after with _ | ⟨more, after⟩
    · refine Inquiry.outcome_orElse_congr rfl
        fun q hCaught => hSame q fun moment hMoment => ?_
      rw [Option.mem_def] at hCaught
      simp only [attemptMoment?, hCaught]
      exact hMoment
    · rfl
  · cases before <;> rfl

/-
  Where one value is wanted, an area can be replaced by the
  call that sums it up, unless the sum is too great.
-/
theorem outcome_fill_sum
    {place : Place}
    (hScalar : place.IsScalar)
    (hSum : Function.named? (upperName name) = some .sum)
    (written : String)
    (hTotal : ∀ moment ∈
        place.moment? surroundings resolve p,
      (((call name [.range written]).value.run surroundings
        resolve).outcome moment).1 ≠ .error .wholeTooGreat) :
    ((place.fill (call name [.range written])).value.run
        surroundings resolve).outcome p =
      ((place.fill (.range written)).value.run
        surroundings resolve).outcome p := by
  induction place generalizing p with
  | whole =>
      rw [fill, fill, value_sum_range hSum]
  | operand op inner ih =>
      rw [fill, fill, value, value]
      exact Inquiry.outcome_bind_congr (ih hScalar hTotal)
        fun _ _ _ => rfl
  | left op inner other ih =>
      rw [fill, fill, value, value]
      exact Inquiry.outcome_bind_congr (ih hScalar hTotal)
        fun _ _ _ => rfl
  | right op other inner ih =>
      rw [fill, fill, value, value]
      refine Inquiry.outcome_bind_congr rfl
        fun first q hFirst => ?_
      refine Inquiry.outcome_bind_congr (ih hScalar ?_)
        fun _ _ _ => rfl
      intro moment hMoment
      refine hTotal moment ?_
      rw [moment?, Inquiry.afterValue, hFirst]
      exact hMoment
  | argument function before inner after ih =>
      rw [fill, fill]
      by_cases hAttempt :
          Function.named? (upperName function) =
            some .ifError
      · rw [value, value]
        simp only [hAttempt, if_true]
        have hMoments :
            (argument function before inner after).moment?
                surroundings resolve p =
              attemptMoment? surroundings resolve before after
                (inner.moment? surroundings resolve) p :=
          if_pos hAttempt
        rw [hMoments] at hTotal
        exact outcome_attempt_congr before after
          fun q hHere => ih hScalar.inner
            fun moment hMoment =>
              hTotal moment (hHere moment hMoment)
      · have hMoments :
            (argument function before inner after).moment?
                surroundings resolve p =
              ((argumentValues before).afterValue surroundings
                resolve p).bind
                  (inner.moment? surroundings resolve) :=
          if_neg hAttempt
        rw [hMoments] at hTotal
        -- Only a choice is given the area itself, and it takes
        -- the total of it; elsewhere the place is further in.
        by_cases hWhole : inner = whole
        · subst hWhole
          have hChoice := hScalar.resolve_right hAttempt
          refine outcome_choice_sum hChoice hSum written before
            after fun moment hMoment => hTotal moment ?_
          rw [Option.mem_def] at hMoment
          rw [hMoment]
          rfl
        · refine outcome_call_congr hAttempt before after
            fun q hQ => ?_
          rw [argumentValue_fill hWhole,
            argumentValue_fill hWhole, map_eq_pure_bind,
            map_eq_pure_bind]
          refine Inquiry.outcome_bind_congr
            (ih hScalar.inner fun moment hMoment =>
              hTotal moment ?_)
            fun _ _ _ => rfl
          rw [Option.mem_def] at hQ
          rw [hQ]
          exact hMoment

end Place

end Expr

end Spreadsheet
