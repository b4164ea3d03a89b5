import Spreadsheet.Proofs.Evaluation.Formula
import Spreadsheet.Proofs.Function.Conditional

/-
  Conditional functions in formulas.

  A conditional mean and a conditional sum ask for the same
  values in the same order: those of the range, the criterion
  and the target, if there is one.  A conditional count asks
  for the first two only.  What each of them comes to is
  concluded from these values, and nothing more is asked.

  Key definitions include:
    * `Spreadsheet.Expr.pairValues`
    * `Spreadsheet.Expr.targetValue`
    * `Spreadsheet.Expr.matchedValues`

  Main results:
    * `Spreadsheet.Expr.value_averageIf`
    * `Spreadsheet.Expr.value_sumIf`
    * `Spreadsheet.Expr.value_countIf`
-/

------------------------------------------------------------
-- Results That Are Concluded
------------------------------------------------------------

namespace Spreadsheet

namespace Inquiry

variable {α β : Type}
variable {surroundings : Surroundings}
variable {resolve : Cell → Run Value}
variable {inquiry : Inquiry α}
variable {p q : Progress}

/- What follows on a value goes on where it was found. -/
theorem outcome_bind_of_ok
    {value : α}
    (follow : α → Inquiry β)
    (hFound :
      (inquiry.run surroundings resolve).outcome p =
        (.ok value, q)) :
    ((inquiry >>= follow).run surroundings resolve).outcome
        p =
      ((follow value).run surroundings resolve).outcome q := by
  rw [bind_eq_andThen, outcome_andThen, hFound]
  rfl

/- A failure is final. -/
theorem outcome_bind_of_error
    {failure : Failure}
    (follow : α → Inquiry β)
    (hFailed :
      (inquiry.run surroundings resolve).outcome p =
        (.error failure, q)) :
    ((inquiry >>= follow).run surroundings resolve).outcome
        p =
      (.error failure, q) := by
  rw [bind_eq_andThen, outcome_andThen, hFailed]
  rfl

/- A value of both parts comes from one of the first part. -/
theorem exists_first_of_ok
    {follow : α → Inquiry β}
    {value : β}
    (hFound :
      (((inquiry >>= follow).run surroundings
        resolve).outcome p).1 = .ok value) :
    ∃ first middle,
      (inquiry.run surroundings resolve).outcome p =
          (.ok first, middle) ∧
        (((follow first).run surroundings resolve).outcome
          middle).1 = .ok value := by
  cases hFirst :
      (inquiry.run surroundings resolve).outcome p with
  | mk result middle =>
      cases result with
      | ok first =>
          rw [outcome_bind_of_ok follow hFirst] at hFound
          exact ⟨first, middle, rfl, hFound⟩
      | error failure =>
          rw [outcome_bind_of_error follow hFirst] at hFound
          cases hFound

variable (conclude : α → Except Failure β)

/- A result that is concluded from a value takes no step. -/
theorem outcome_bind_settled
    (inquiry : Inquiry α)
    (p : Progress) :
    ((inquiry >>= fun value =>
        settled (conclude value)).run surroundings
          resolve).outcome p =
      (((inquiry.run surroundings resolve).outcome p).1 >>=
          conclude,
        ((inquiry.run surroundings resolve).outcome p).2) := by
  cases hFound :
      (inquiry.run surroundings resolve).outcome p with
  | mk result after =>
      cases result with
      | ok value => exact outcome_bind_of_ok _ hFound
      | error failure => exact outcome_bind_of_error _ hFound

/- Nothing more is asked for it. -/
theorem questions_bind_settled
    (inquiry : Inquiry α)
    (p : Progress) :
    (inquiry >>= fun value =>
        settled (conclude value)).questions surroundings
          resolve p =
      inquiry.questions surroundings resolve p := by
  rw [bind_eq_andThen, questions_andThen]
  cases ((inquiry.run surroundings resolve).outcome p).1 with
  | ok value => exact List.append_nil _
  | error failure => exact List.append_nil _

end Inquiry

end Spreadsheet

------------------------------------------------------------
-- Values Of Conditional Arguments
------------------------------------------------------------

namespace Spreadsheet

namespace Expr

variable (range criterion : Expr)
variable (target : Option Expr)

/- The values of a range and a criterion. -/
def pairValues :
    Inquiry (Argument × Argument) := do
  let values ← range.argumentValue
  let word ← criterion.argumentValue
  return (values, word)

/- The values of a target, if there is one. -/
def targetValue :
    Inquiry (Option Argument) :=
  match target with
  | none => pure none
  | some target => some <$> target.argumentValue

/- The values of a range, a criterion and a target, if any. -/
def matchedValues :
    Inquiry ((Argument × Argument) × Option Argument) := do
  let pair ← pairValues range criterion
  let targets ← targetValue target
  return (pair, targets)

/- They are the values of the arguments in a list. -/
theorem argumentValues_matched :
    argumentValues (range :: criterion :: target.toList) =
      matchedValues range criterion target >>= fun found =>
        pure (found.1.1 :: found.1.2 :: found.2.toList) := by
  cases target with
  | none =>
      simp only [Option.toList_none, argumentValues_cons,
        argumentValues, matchedValues, pairValues,
        targetValue, bind_assoc, pure_bind]
  | some target =>
      simp only [Option.toList_some, argumentValues_cons,
        argumentValues, matchedValues, pairValues,
        targetValue, map_eq_pure_bind, bind_assoc, pure_bind]

/- So it is where there is no target. -/
theorem argumentValues_pair :
    argumentValues [range, criterion] =
      pairValues range criterion >>= fun pair =>
        pure [pair.1, pair.2] := by
  simp only [argumentValues_cons, argumentValues, pairValues,
    bind_assoc, pure_bind]

/- They ask only about cells that the call refers to. -/
theorem pairValues_within
    (name : String) :
    (pairValues range criterion).Within
      (call name
        (range :: criterion :: target.toList)).RefersTo
      (call name
        (range :: criterion :: target.toList)).IsRandom := by
  refine (argumentValue_within name
    List.mem_cons_self).bind fun values => ?_
  refine (argumentValue_within name
    (List.mem_cons_of_mem _ List.mem_cons_self)).bind
      fun word => ?_
  exact .settled _

theorem targetValue_within
    (name : String) :
    (targetValue target).Within
      (call name
        (range :: criterion :: target.toList)).RefersTo
      (call name
        (range :: criterion :: target.toList)).IsRandom := by
  cases target with
  | none => exact .settled _
  | some target =>
      rw [targetValue, map_eq_pure_bind]
      refine (argumentValue_within name ?_).bind
        fun targets => .settled _
      simp

end Expr

end Spreadsheet

------------------------------------------------------------
-- Values Of Conditional Functions
------------------------------------------------------------

namespace Spreadsheet

namespace Expr

variable (range criterion : Expr)
variable (target : Option Expr)

/- A mean is concluded from the numbers that are paired. -/
theorem value_averageIf :
    (call "AVERAGEIF"
        (range :: criterion :: target.toList)).value =
      matchedValues range criterion target >>= fun found =>
        .settled
          (Call.paired found.1.1 found.1.2 found.2 >>=
            Call.meanOf) := by
  have hName :
      Function.named? (upperName "AVERAGEIF") =
        some .averageIf := by
    rfl
  rw [value_call_answered hName (by decide) (by decide)
    (by decide), argumentValues_matched, bind_assoc]
  refine bind_congr fun found => ?_
  exact congrArg Inquiry.ofAnswer
    (Call.answer_averageIf found.1.1 found.1.2 found.2)

/- So is a sum. -/
theorem value_sumIf :
    (call "SUMIF"
        (range :: criterion :: target.toList)).value =
      matchedValues range criterion target >>= fun found =>
        .settled
          ((Call.paired found.1.1 found.1.2 found.2).map
            Call.sumOf) := by
  have hName :
      Function.named? (upperName "SUMIF") = some .sumIf := by
    rfl
  rw [value_call_answered hName (by decide) (by decide)
    (by decide), argumentValues_matched, bind_assoc]
  refine bind_congr fun found => ?_
  exact congrArg Inquiry.ofAnswer
    (Call.answer_sumIf found.1.1 found.1.2 found.2)

/- A count takes no target. -/
theorem value_countIf :
    (call "COUNTIF" [range, criterion]).value =
      pairValues range criterion >>= fun pair =>
        .settled (Call.counted pair.1 pair.2) := by
  have hName :
      Function.named? (upperName "COUNTIF") =
        some .countIf := by
    rfl
  rw [value_call_answered hName (by decide) (by decide)
    (by decide), argumentValues_pair, bind_assoc]
  refine bind_congr fun pair => ?_
  exact congrArg Inquiry.ofAnswer
    (Call.answer_countIf_of_arguments pair.1 pair.2)

end Expr

end Spreadsheet
