import Spreadsheet.Evaluation.Operators
import Spreadsheet.Proofs.Number.Text

/-
  Comparisons in criteria and in formulas.

  A criterion has its operand as text, a formula has it as a
  value.  They compare alike: the text of a number is read as
  an equal number, and what is no number on either side is
  compared as text by both, or by none of them.

  Key definitions include:
    * `Spreadsheet.Comparison.Ends`
    * `Spreadsheet.Value.SameNumber`
    * `Spreadsheet.Value.matched`
    * `Spreadsheet.Value.Verdict`
    * `Spreadsheet.Value.Coerces`

  Main results:
    * `Spreadsheet.Criterion.ofText_symbol`
    * `Spreadsheet.Value.satisfies_symbol`
    * `Spreadsheet.Value.verdict_matched`
    * `Spreadsheet.Value.satisfies_iff_compares`
-/

------------------------------------------------------------
-- Symbols In Front Of Operands
------------------------------------------------------------

namespace Spreadsheet

/-
  The symbol of a comparison ends where an operand begins: a
  text does not begin with a longer symbol.
-/
def Comparison.Ends
    (comparison : Comparison)
    (operand : String) : Prop :=
  ∀ longer : Comparison,
    comparison.symbol.length < longer.symbol.length →
      ¬ longer.symbol.toList <+:
        (comparison.symbol ++ operand).toList

/- Only the symbols of one character have longer ones. -/
theorem Comparison.ends_of_long
    {comparison : Comparison}
    (hLong : comparison.symbol.length = 2)
    (operand : String) :
    comparison.Ends operand := by
  intro longer hLonger
  have hAll : longer.symbol.length ≤ 2 := by
    cases longer <;> decide
  omega

/- Nor does any other symbol begin with an equals sign. -/
theorem Comparison.ends_eq
    (operand : String) :
    Comparison.eq.Ends operand := by
  intro longer hLonger hPrefix
  rw [String.toList_append] at hPrefix
  cases longer <;> simp [Comparison.symbol] at hPrefix hLonger

/- Behind a symbol that ends there is no end of a longer one. -/
theorem Comparison.Ends.head_ne
    {comparison : Comparison}
    {operand : String}
    (hEnds : comparison.Ends operand)
    (longer : Comparison)
    {last : Char}
    (hLonger :
      longer.symbol.toList =
        comparison.symbol.toList ++ [last]) :
    ∀ c ∈ operand.toList.head?, c ≠ last := by
  rintro c hHead rfl
  rcases List.head?_eq_some_iff.mp hHead with ⟨rest, hOperand⟩
  have hLength :
      comparison.symbol.length < longer.symbol.length := by
    rw [← String.length_toList, ← String.length_toList,
      hLonger, List.length_append]
    exact Nat.lt_succ_self _
  refine hEnds longer hLength ⟨rest, ?_⟩
  rw [String.toList_append, hLonger, hOperand,
    List.append_assoc]
  rfl

/- A symbol is split from an operand where it ends. -/
theorem Criterion.ofText_symbol
    {comparison : Comparison}
    {operand : String}
    (hEnds : comparison.Ends operand) :
    Criterion.ofText (comparison.symbol ++ operand) =
      .comparison comparison operand := by
  have hSplit :
      splitComparison?
          (comparison.symbol.toList ++ operand.toList) =
        some (comparison, operand.toList) := by
    cases comparison with
    | eq => rfl
    | ne => rfl
    | le => rfl
    | ge => rfl
    | lt =>
        have hNotNe := hEnds.head_ne .ne rfl
        have hNotLe := hEnds.head_ne .le rfl
        cases hText : operand.toList with
        | nil => rfl
        | cons c rest =>
            rw [hText] at hNotNe hNotLe
            have hNe : c ≠ '>' := hNotNe c rfl
            have hLe : c ≠ '=' := hNotLe c rfl
            simp [Comparison.symbol, splitComparison?, hNe, hLe]
    | gt =>
        have hNotGe := hEnds.head_ne .ge rfl
        cases hText : operand.toList with
        | nil => rfl
        | cons c rest =>
            rw [hText] at hNotGe
            have hGe : c ≠ '=' := hNotGe c rfl
            simp [Comparison.symbol, splitComparison?, hGe]
  unfold Criterion.ofText
  rw [String.toList_append, hSplit]
  simp only [String.ofList_toList]

end Spreadsheet

------------------------------------------------------------
-- Operands Read From Text
------------------------------------------------------------

namespace Spreadsheet

namespace Value

open Number (isNaN)

/- Two numbers are equal, or there is none of both. -/
def SameNumber
    (y? z? : Option Float) : Prop :=
  y? = z? ∨ ∃ y z, y? = some y ∧ z? = some z ∧ (y == z) = true

/-
  The number of an operand that is read from its text is equal
  to its own, and it has none if it has none of its own.
-/
theorem numberOfText_operand
    {operand : Value}
    {y? : Option Float}
    (hOperand : operand.toNumber? = .ok y?)
    (hNumber : ∀ y, operand = .number y → isNaN y = false) :
    ∃ z?,
      numberOfText operand.toText = .ok z? ∧
        SameNumber y? z? := by
  cases operand with
  | number y =>
      cases hOperand
      rcases Number.numberOfText_toText (hNumber y rfl) with
        ⟨z, hRead, hEqual⟩
      exact ⟨some z, hRead,
        .inr ⟨y, z, rfl, rfl, BEq.symm hEqual⟩⟩
  | text s => exact ⟨y?, hOperand, .inl rfl⟩

/- What a criterion says of a value and an operand. -/
def matched
    (comparison : Comparison)
    (text operand : String)
    (x? z? : Option Float) :
    Bool :=
  match x?, z? with
  | some x, some z => comparison.holds x z
  | _, _ => Criterion.comparesText comparison text operand

/- A value is compared with the operand of a criterion. -/
theorem satisfies_symbol
    {comparison : Comparison}
    {operand : String}
    (hEnds : comparison.Ends operand)
    {value : Value}
    {x? z? : Option Float}
    (hValue : value.toNumber? = .ok x?)
    (hOperand : numberOfText operand = .ok z?) :
    value.satisfies (comparison.symbol ++ operand) =
      .ok (matched comparison value.toText operand x? z?) := by
  unfold satisfies
  rw [Criterion.ofText_symbol hEnds, Criterion.accepts, hValue,
    Criterion.bothNumbers?, hOperand]
  cases x? with
  | none => rfl
  | some x =>
      cases z? with
      | none => rfl
      | some z => rfl

end Value

end Spreadsheet

------------------------------------------------------------
-- Comparisons In Formulas
------------------------------------------------------------

namespace Spreadsheet

namespace Value

/-
  A verdict on two values: a comparison in a formula says the
  same, or it says no and one of the values is no number.
-/
def Verdict
    (comparison : Comparison)
    (a b : Value)
    (verdict : Bool) : Prop :=
  compare comparison a b = .ok (.ofBool verdict) ∨
    verdict = false ∧
      ∃ operand,
        compare comparison a b = .error (.notANumber operand)

variable {a b : Value}
variable {comparison : Comparison}

/- Two numbers are compared as numbers. -/
theorem compare_of_numbers
    {x y : Float}
    (hA : a.toNumber? = .ok (some x))
    (hB : b.toNumber? = .ok (some y)) :
    compare comparison a b =
      .ok (.ofBool (comparison.holds x y)) := by
  cases comparison with
  | eq =>
      rw [compare, sameAs, hA, hB]
      rfl
  | ne =>
      rw [compare, sameAs, hA, hB]
      rfl
  | _ =>
      rw [compare, onNumbers, toNumber, toNumber, hA, hB]
      · rfl
      · rintro ⟨⟩
      · rintro ⟨⟩

/- A value without a number cannot be ordered. -/
theorem onNumbers_of_none
    {operation : Float → Float → Except Failure Value}
    {x? y? : Option Float}
    (hA : a.toNumber? = .ok x?)
    (hB : b.toNumber? = .ok y?)
    (hNone : x? = none ∨ y? = none) :
    ∃ operand,
      onNumbers operation a b =
        .error (.notANumber operand) := by
  rw [onNumbers, toNumber, toNumber, hA, hB]
  cases x? with
  | none => exact ⟨_, rfl⟩
  | some x =>
      cases hNone.resolve_left (Option.some_ne_none x)
      exact ⟨_, rfl⟩

/- Without two numbers only texts are compared. -/
theorem verdict_of_none
    {x? y? : Option Float}
    (hA : a.toNumber? = .ok x?)
    (hB : b.toNumber? = .ok y?)
    (hNone : x? = none ∨ y? = none) :
    Verdict comparison a b
      (Criterion.comparesText comparison a.toText
        b.toText) := by
  have hSame : a.sameAs b = .ok (a.toText == b.toText) := by
    rw [sameAs, hA, hB]
    cases x? with
    | none => rfl
    | some x =>
        cases hNone.resolve_left (Option.some_ne_none x)
        rfl
  have hOrder :
      ∀ operation, ∃ operand,
        onNumbers operation a b =
          .error (.notANumber operand) :=
    fun _ => onNumbers_of_none hA hB hNone
  cases comparison with
  | eq =>
      left
      rw [compare, hSame]
      rfl
  | ne =>
      left
      rw [compare, hSame]
      rfl
  | lt => exact .inr ⟨rfl, hOrder _⟩
  | gt => exact .inr ⟨rfl, hOrder _⟩
  | le => exact .inr ⟨rfl, hOrder _⟩
  | ge => exact .inr ⟨rfl, hOrder _⟩

/- A criterion gives the verdict of a formula. -/
theorem verdict_matched
    {x? y? z? : Option Float}
    (hA : a.toNumber? = .ok x?)
    (hB : b.toNumber? = .ok y?)
    (hRead : SameNumber y? z?) :
    Verdict comparison a b
      (matched comparison a.toText b.toText x? z?) := by
  cases x? with
  | none => exact verdict_of_none hA hB (.inl rfl)
  | some x =>
      rcases hRead with rfl | ⟨y, z, rfl, rfl, hEqual⟩
      · cases y? with
        | none => exact verdict_of_none hA hB (.inr rfl)
        | some y => exact .inl (compare_of_numbers hA hB)
      · left
        rw [compare_of_numbers hA hB,
          Number.holds_of_beq hEqual]
        rfl

/- A verdict is yes exactly if a formula says so, else no. -/
theorem Verdict.iff
    {verdict : Bool}
    (hVerdict : Verdict comparison a b verdict) :
    (verdict = true ↔
      compare comparison a b = .ok (.number 1.0)) ∧
    (verdict = false ↔
      compare comparison a b = .ok (.number 0.0) ∨
        ∃ failure,
          compare comparison a b = .error failure ∧
            failure.code = "#VALUE!") := by
  have hOther : (0.0 : Float) ≠ 1.0 := by decide +kernel
  rcases hVerdict with hSame | ⟨rfl, operand, hFailed⟩
  · rw [hSame]
    cases verdict with
    | false => simp [ofBool, hOther]
    | true => simp [ofBool, hOther.symm]
  · rw [hFailed]
    simp [Failure.code]

end Value

end Spreadsheet

------------------------------------------------------------
-- Counts Of Matching Values
------------------------------------------------------------

namespace Spreadsheet

/- Values are counted by what a criterion says of each. -/
theorem countMatching_eq
    {criterion : String}
    {verdict : Value → Bool}
    {values : List Value}
    (hVerdict :
      ∀ value ∈ values,
        value.satisfies criterion = .ok (verdict value)) :
    countMatching criterion values =
      .ok (values.countP verdict) := by
  induction values with
  | nil => rfl
  | cons value values ih =>
      rw [List.forall_mem_cons] at hVerdict
      rw [countMatching, hVerdict.1, ih hVerdict.2,
        List.countP_cons]
      cases verdict value with
      | false => rfl
      | true => rfl

/- The answer to a count of matching values. -/
theorem Call.answer_countIf
    {criterion : String}
    {verdict : Value → Bool}
    {range : Argument}
    (hVerdict :
      ∀ value ∈ range.values,
        value.satisfies criterion = .ok (verdict value)) :
    Call.answer
        ⟨.countIf, [range, .scalar (.text criterion)]⟩ =
      .settled (.ok (.number
        (Number.ofInt (range.values.countP verdict)))) :=
  congrArg
    (fun count : Except Failure Nat =>
      Answer.settled
        (count.map fun n : Nat =>
          Value.number (Number.ofInt n)))
    (countMatching_eq hVerdict)

/- What is not equal is different. -/
theorem Value.matched_ne
    (text operand : String)
    (x? z? : Option Float) :
    matched .ne text operand x? z? =
      !matched .eq text operand x? z? := by
  cases x? with
  | none => rfl
  | some x =>
      cases z? with
      | none => rfl
      | some z => rfl

end Spreadsheet

------------------------------------------------------------
-- Criteria And Formulas
------------------------------------------------------------

namespace Spreadsheet

namespace Value

open Number (isNaN)

/- It is no failure to ask for the number of a value. -/
def Coerces
    (value : Value) : Prop :=
  ∃ x?, value.toNumber? = .ok x?

/-
  A value satisfies a comparison with the text of an operand
  if and only if a formula compares the two like that.  So the
  values of a range that are equal to an operand and those
  that are not are all of its values.
-/
theorem satisfies_iff_compares
    {operand : Value}
    (hOperand : operand.Coerces)
    (hNumber : ∀ y, operand = .number y → isNaN y = false) :
    (∀ (comparison : Comparison) (value : Value),
      value.Coerces →
      comparison.Ends operand.toText →
      ∃ verdict,
        value.satisfies
            (comparison.symbol ++ operand.toText) =
          .ok verdict ∧
        (verdict = true ↔
          (BinaryOp.compare comparison).apply value operand =
            .ok (.number 1.0)) ∧
        (verdict = false ↔
          (BinaryOp.compare comparison).apply value operand =
              .ok (.number 0.0) ∨
            ∃ failure,
              (BinaryOp.compare comparison).apply value
                  operand =
                .error failure ∧
              failure.code = "#VALUE!")) ∧
    (∀ range : Argument,
      (∀ value ∈ range.values, value.Coerces) →
      ∃ equal different : Nat,
        Call.answer
            ⟨.countIf,
              [range, .scalar (.text
                (Comparison.eq.symbol ++ operand.toText))]⟩ =
          .settled (.ok (.number (Number.ofInt equal))) ∧
        Call.answer
            ⟨.countIf,
              [range, .scalar (.text
                (Comparison.ne.symbol ++ operand.toText))]⟩ =
          .settled (.ok (.number (Number.ofInt different))) ∧
        equal + different = range.values.length) := by
  rcases hOperand with ⟨y?, hOperand⟩
  rcases numberOfText_operand hOperand hNumber with
    ⟨z?, hText, hRead⟩
  constructor
  · rintro comparison value ⟨x?, hValue⟩ hEnds
    exact ⟨_, satisfies_symbol hEnds hValue hText,
      (verdict_matched hValue hOperand hRead).iff⟩
  · intro range hRange
    let verdict (comparison : Comparison) (value : Value) :=
      matched comparison value.toText operand.toText
        value.toNumber?.toOption.join z?
    have hVerdict :
        ∀ {comparison : Comparison},
          comparison.Ends operand.toText →
          ∀ value ∈ range.values,
            value.satisfies
                (comparison.symbol ++ operand.toText) =
              .ok (verdict comparison value) := by
      intro comparison hEnds value hMember
      rcases hRange value hMember with ⟨x?, hValue⟩
      simp only [verdict]
      rw [hValue]
      exact satisfies_symbol hEnds hValue hText
    have hDifferent :
        verdict .ne =
          fun value => ¬ verdict .eq value = true := by
      funext value
      simp [verdict, matched_ne]
    refine ⟨_, _,
      Call.answer_countIf (hVerdict (Comparison.ends_eq _)),
      Call.answer_countIf
        (hVerdict (Comparison.ends_of_long rfl _)), ?_⟩
    rw [hDifferent]
    exact (List.length_eq_countP_add_countP _).symm

/- Numbers, their texts and other texts, next to one number. -/
theorem satisfies_iff_compares_tenth :
    Coerces (.number 0.1) ∧
    (∀ y, Value.number 0.1 = .number y → isNaN y = false) ∧
    Coerces (.text " .1 ") ∧
    Comparison.lt.Ends (Value.number 0.1).toText ∧
    (∃ verdict,
      satisfies (.text " .1 ")
          (Comparison.lt.symbol ++
            (Value.number 0.1).toText) =
        .ok verdict ∧
      (verdict = true ↔
        (BinaryOp.compare .lt).apply (.text " .1 ")
            (.number 0.1) =
          .ok (.number 1.0)) ∧
      (verdict = false ↔
        (BinaryOp.compare .lt).apply (.text " .1 ")
            (.number 0.1) =
            .ok (.number 0.0) ∨
          ∃ failure,
            (BinaryOp.compare .lt).apply (.text " .1 ")
                (.number 0.1) =
              .error failure ∧
            failure.code = "#VALUE!")) ∧
    (∀ value ∈ [Value.number 0.1, .text "x", .text "0.1"],
      value.Coerces) ∧
    ∃ equal different : Nat,
      Call.answer
          ⟨.countIf,
            [.area [.number 0.1, .text "x", .text "0.1"],
              .scalar (.text
                (Comparison.eq.symbol ++
                  (Value.number 0.1).toText))]⟩ =
        .settled (.ok (.number (Number.ofInt equal))) ∧
      Call.answer
          ⟨.countIf,
            [.area [.number 0.1, .text "x", .text "0.1"],
              .scalar (.text
                (Comparison.ne.symbol ++
                  (Value.number 0.1).toText))]⟩ =
        .settled (.ok (.number (Number.ofInt different))) ∧
      equal + different = 3 := by
  have hOperand : Coerces (.number 0.1) := ⟨_, rfl⟩
  have hNumber :
      ∀ y, Value.number 0.1 = .number y → isNaN y = false := by
    rintro y ⟨rfl⟩
    decide +kernel
  have hValue : Coerces (.text " .1 ") := ⟨_, rfl⟩
  have hEnds :
      Comparison.lt.Ends (Value.number 0.1).toText := by
    intro longer
    cases longer <;> decide +kernel
  have hRange :
      ∀ value ∈ [Value.number 0.1, .text "x", .text "0.1"],
        value.Coerces := by
    simp only [List.forall_mem_cons]
    exact ⟨⟨_, rfl⟩, ⟨_, rfl⟩, ⟨_, rfl⟩, nofun⟩
  rcases satisfies_iff_compares hOperand hNumber with
    ⟨hCompares, hCounts⟩
  exact ⟨hOperand, hNumber, hValue, hEnds,
    hCompares .lt (.text " .1 ") hValue hEnds, hRange,
    hCounts (.area _) hRange⟩

end Value

end Spreadsheet
