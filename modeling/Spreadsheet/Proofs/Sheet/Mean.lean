import Spreadsheet.Proofs.Evaluation.Conditional
import Spreadsheet.Proofs.Sheet.Again
import Spreadsheet.Proofs.Sheet.Held
import Spreadsheet.Proofs.Sheet.Nested

/-
  Conditional means in cells.

  A conditional mean asks for its range and its criterion
  once, a conditional sum over a conditional count twice.  If
  both come to the same the second time, the mean and the
  quotient do.  They may not where a formula catches that a
  cell was given up for want of room: what is known by then
  leaves more room than there was.

  Main results:
    * `Spreadsheet.Sheet.resolve_quotient`
    * `Spreadsheet.Sheet.mean_eq_quotient`
    * `Spreadsheet.Sheet.mean_ne_quotient_without_room`
-/

------------------------------------------------------------
-- Formulas With Conditional Functions
------------------------------------------------------------

namespace Spreadsheet

namespace Sheet

variable {sheet : Sheet}
variable {root : Cell}
variable {p q : Progress}
variable {range criterion : Expr}
variable {target : Option Expr}

/- A mean is that of the numbers that are paired. -/
theorem resolve_averageIf :
    ((sheet.resolve
        (Expr.call "AVERAGEIF"
          (range :: criterion :: target.toList)).value).outcome
            p).1 =
      ((sheet.resolve
          (Expr.matchedValues range criterion
            target)).outcome p).1 >>= fun found =>
        Call.paired found.1.1 found.1.2 found.2 >>=
          Call.meanOf := by
  rw [Expr.value_averageIf, resolve,
    Inquiry.outcome_bind_settled]
  rfl

/- A count is that of the values that satisfy. -/
theorem resolve_countIf :
    ((sheet.resolve
        (Expr.call "COUNTIF" [range, criterion]).value).outcome
          p).1 =
      ((sheet.resolve
          (Expr.pairValues range criterion)).outcome p).1 >>=
        fun pair => Call.counted pair.1 pair.2 := by
  rw [Expr.value_countIf, resolve,
    Inquiry.outcome_bind_settled]
  rfl

/- Values of all arguments include those of the first two. -/
theorem pair_of_matched
    {found : (Argument × Argument) × Option Argument}
    (hFound :
      ((sheet.resolve
        (Expr.matchedValues range criterion target)).outcome
          p).1 = .ok found) :
    ((sheet.resolve
        (Expr.pairValues range criterion)).outcome p).1 =
      .ok found.1 := by
  rcases Inquiry.exists_first_of_ok hFound with
    ⟨pair, middle, hPair, hRest⟩
  rcases Inquiry.exists_first_of_ok hRest with
    ⟨targets, after, -, hBoth⟩
  cases hBoth
  rw [resolve, hPair]

/- The values that are matched are those of the arguments. -/
theorem arguments_of_matched
    {found : (Argument × Argument) × Option Argument}
    (hFound :
      (sheet.resolve
        (Expr.matchedValues range criterion target)).outcome
          p = (.ok found, q)) :
    ((sheet.resolve
        (Expr.argumentValues
          (range :: criterion :: target.toList))).outcome
            p).1 =
      .ok (found.1.1 :: found.1.2 :: found.2.toList) := by
  rw [Expr.argumentValues_matched, resolve,
    Inquiry.outcome_bind_of_ok _ hFound]
  rfl

/- No other values are matched. -/
theorem matched_of_arguments
    {values word : Argument}
    {targets : Option Argument}
    (hArguments :
      ((sheet.resolve
        (Expr.argumentValues
          (range :: criterion :: target.toList))).outcome
            p).1 =
        .ok (values :: word :: targets.toList)) :
    ((sheet.resolve
        (Expr.matchedValues range criterion target)).outcome
          p).1 =
      .ok ((values, word), targets) := by
  rw [Expr.argumentValues_matched] at hArguments
  rcases Inquiry.exists_first_of_ok hArguments with
    ⟨⟨⟨first, second⟩, third⟩, middle, hFound, hListed⟩
  rw [resolve, hFound]
  rcases List.cons.inj (Except.ok.inj hListed) with
    ⟨rfl, hRest⟩
  rcases List.cons.inj hRest with ⟨rfl, hSame⟩
  cases third with
  | none =>
      cases targets with
      | none => rfl
      | some targets => cases hSame
  | some third =>
      cases targets with
      | none => cases hSame
      | some targets =>
          cases hSame
          rfl

/- After all arguments the first two come to the same again. -/
theorem pair_again
    (hClock : ∀ index,
      sheet.surroundings.clock index = sheet.now)
    (hRandom : ∀ other, sheet.grid.Reaches root other →
      ¬sheet.grid.IsRandomAt other)
    (hFormula :
      sheet.grid.formula? root =
        some (.call "AVERAGEIF"
          (range :: criterion :: target.toList)))
    (hRoom : sheet.settings.memoize = false ∨
      ∀ visit ∈
          (Expr.matchedValues range criterion
            target).questions sheet.surroundings
              sheet.evaluateCell p,
        sheet.Calm (sheet.visits visit))
    (hSound : sheet.Sound p)
    {found : (Argument × Argument) × Option Argument}
    (hFound :
      (sheet.resolve
        (Expr.matchedValues range criterion target)).outcome
          p = (.ok found, q)) :
    ((sheet.resolve
        (Expr.pairValues range criterion)).outcome q).1 =
      .ok found.1 := by
  have hReaches :
      ∀ cell,
        (Expr.call "AVERAGEIF"
          (range :: criterion :: target.toList)).RefersTo cell →
          sheet.grid.Reaches root cell :=
    fun _ hRefers => .of_refers ⟨_, hFormula, hRefers⟩
  have hCertain :
      (Expr.call "AVERAGEIF"
        (range :: criterion :: target.toList)).IsRandom →
          False :=
    fun hChance =>
      hRandom root (.refl _ _) ⟨_, hFormula, hChance⟩
  have hPair :=
    pair_of_matched (congrArg Prod.fst hFound)
  have hAgain :
      ((sheet.resolve
          (Expr.pairValues range criterion)).outcome
            ((sheet.resolve
              (Expr.matchedValues range criterion
                target)).outcome p).2).1 =
        .ok found.1 :=
    resolve_again hClock hRandom
      ((Expr.pairValues_within range criterion target
        "AVERAGEIF").mono hReaches hCertain)
      (fun pair =>
        ((Expr.targetValue_within range criterion target
          "AVERAGEIF").mono hReaches hCertain).bind
            fun targets => .settled (.ok (pair, targets)))
      hRoom hSound hPair
  rwa [hFound] at hAgain

/-
  A quotient is a sum over a count, both of the same values,
  if the first two arguments come to the same again.
-/
theorem resolve_quotient
    (hAgain :
      ∀ found q,
        (sheet.resolve
          (Expr.matchedValues range criterion
            target)).outcome p = (.ok found, q) →
        ((sheet.resolve
            (Expr.pairValues range criterion)).outcome q).1 =
          .ok found.1) :
    ((sheet.resolve
        (Expr.binary .div
          (.call "SUMIF" (range :: criterion :: target.toList))
          (.call "COUNTIF" [range, criterion])).value).outcome
            p).1 =
      ((sheet.resolve
          (Expr.matchedValues range criterion
            target)).outcome p).1 >>= fun found =>
        (Call.paired found.1.1 found.1.2 found.2).map
            Call.sumOf >>= fun sum =>
          Call.counted found.1.1 found.1.2 >>= fun count =>
            BinaryOp.apply .div sum count := by
  have hValue :
      (Expr.binary .div
          (.call "SUMIF" (range :: criterion :: target.toList))
          (.call "COUNTIF" [range, criterion])).value =
        Expr.matchedValues range criterion target >>=
          fun found =>
            .settled
              ((Call.paired found.1.1 found.1.2 found.2).map
                Call.sumOf) >>= fun sum =>
            (Expr.call "COUNTIF" [range, criterion]).value >>=
              fun count =>
                .settled (BinaryOp.apply .div sum count) := by
    rw [Expr.value, Expr.value_sumIf, bind_assoc]
    rfl
  rw [hValue]
  cases hFound :
      (sheet.resolve
        (Expr.matchedValues range criterion target)).outcome
          p with
  | mk result q =>
      cases result with
      | error failure =>
          rw [resolve, Inquiry.outcome_bind_of_error _ hFound]
          rfl
      | ok found =>
          rw [resolve, Inquiry.outcome_bind_of_ok _ hFound]
          change _ =
            (Call.paired found.1.1 found.1.2 found.2).map
                Call.sumOf >>= _
          cases (Call.paired found.1.1 found.1.2 found.2).map
              Call.sumOf with
          | error failure => rfl
          | ok sum =>
              have hCount :
                  ((sheet.resolve
                      (Expr.call "COUNTIF"
                        [range, criterion]).value).outcome
                          q).1 =
                    Call.counted found.1.1 found.1.2 := by
                rw [resolve_countIf, hAgain found q hFound]
                rfl
              change ((sheet.resolve
                ((Expr.call "COUNTIF"
                    [range, criterion]).value >>= _)).outcome
                  q).1 = _
              rw [resolve, Inquiry.outcome_bind_settled,
                ← resolve, hCount]
              rfl

end Sheet

end Spreadsheet

------------------------------------------------------------
-- Means And Quotients In A Cell
------------------------------------------------------------

namespace Spreadsheet

namespace Sheet

variable (sheet : Sheet)
variable (row col : Nat)
variable {body : List Char}
variable {formula : Expr}

/- A formula that can be read is that of its cell. -/
theorem formula?_withFormula
    (hBody : Expr.ofBody body = .ok formula) :
    (sheet.withFormula row col body).grid.formula?
        ⟨row, col⟩ =
      some formula := by
  rw [Grid.formula?, withFormula, Grid.read_write_self,
    String.toList_ofList]
  simp only [formulaBody?, hBody]
  rfl

/- It comes to its value, whatever formula is there. -/
theorem result_of_formula
    (other : List Char)
    (hRoom : 0 < sheet.settings.maxDepth)
    (hBody : Expr.ofBody body = .ok formula) :
    (sheet.withFormula row col body).result
        ⟨⟨row, col⟩, .start⟩ =
      (((sheet.withFormula row col other).resolve
        formula.value).outcome
          (Progress.start.enter ⟨row, col⟩)).1 := by
  rw [sheet.result_withFormula row col other body hRoom,
    Inquiry.ofBody, hBody]

/-
  Where no cell is given up on the way to a mean, none is on
  the way to the values of its arguments.
-/
theorem calm_of_averageIf
    {range criterion : Expr}
    {target : Option Expr}
    (hBody :
      Expr.ofBody body =
        .ok (.call "AVERAGEIF"
          (range :: criterion :: target.toList)))
    (hRoom : 0 < sheet.settings.maxDepth)
    (hCalm :
      (sheet.withFormula row col body).Calm
        ((sheet.withFormula row col body).visits
          ⟨⟨row, col⟩, .start⟩))
    {visit : Visit}
    (hVisit :
      visit ∈
        (Expr.matchedValues range criterion
          target).questions sheet.surroundings
            (sheet.withFormula row col body).evaluateCell
            (Progress.start.enter ⟨row, col⟩)) :
    (sheet.withFormula row col body).Calm
      ((sheet.withFormula row col body).visits visit) := by
  have hBegins :
      (sheet.withFormula row col body).Begins
        ⟨⟨row, col⟩, .start⟩ :=
    ⟨opens_start _, hRoom⟩
  have hInner :
      visit ∈ (sheet.withFormula row col body).innerVisits
        ⟨⟨row, col⟩, .start⟩ := by
    rw [innerVisits_eq hBegins, inquiry_withFormula_self,
      Inquiry.ofBody, hBody]
    change visit ∈ Inquiry.questions _ _ (Expr.value _) _
    rw [Expr.value_averageIf, Inquiry.questions_bind_settled]
    exact hVisit
  intro other hOther
  exact hCalm other
    (visits_subset
      (mem_visits_of_mem_innerVisits (mem_visits_self _)
        hInner) hOther)

/- Then the first two arguments come to the same again. -/
theorem pair_again_of_averageIf
    {range criterion : Expr}
    {target : Option Expr}
    (hBody :
      Expr.ofBody body =
        .ok (.call "AVERAGEIF"
          (range :: criterion :: target.toList)))
    (hRandom : ∀ other,
      (sheet.withFormula row col body).grid.Reaches
          ⟨row, col⟩ other →
        ¬(sheet.withFormula row col body).grid.IsRandomAt
          other)
    (hClock : ∀ index,
      sheet.surroundings.clock index = sheet.now)
    (hRoom : sheet.settings.memoize = false ∨
      ∀ values,
        (((sheet.withFormula row col body).resolve
          (Expr.argumentValues
            (range :: criterion :: target.toList))).outcome
              (Progress.start.enter ⟨row, col⟩)).1 =
          .ok values →
        (sheet.withFormula row col body).Calm
          ((sheet.withFormula row col body).visits
            ⟨⟨row, col⟩, .start⟩))
    (hDepth : 0 < sheet.settings.maxDepth)
    {q : Progress}
    {found : (Argument × Argument) × Option Argument}
    (hFound :
      ((sheet.withFormula row col body).resolve
        (Expr.matchedValues range criterion target)).outcome
          (Progress.start.enter ⟨row, col⟩) =
        (.ok found, q)) :
    (((sheet.withFormula row col body).resolve
        (Expr.pairValues range criterion)).outcome q).1 =
      .ok found.1 := by
  have hStill :
      ∀ index,
        (sheet.withFormula row col body).surroundings.clock
            index =
          (sheet.withFormula row col body).now :=
    hClock
  have hSound :
      (sheet.withFormula row col body).Sound
        (Progress.start.enter ⟨row, col⟩) :=
    .of_unknown rfl
  have hCalm := hRoom.imp_right fun hCalm =>
    hCalm _ (arguments_of_matched hFound)
  exact pair_again hStill hRandom
    (sheet.formula?_withFormula row col hBody)
    (hCalm.imp_right fun hCalm _ hVisit =>
      sheet.calm_of_averageIf row col hBody hDepth hCalm
        hVisit)
    hSound hFound

/-
  In a cell of a sheet let a mean of the targets of values
  that satisfy a criterion be replaced by their sum over the
  count of the values.  Let nothing that the cell reaches be
  random and the clock stand still.  If values are not kept,
  or if no cell is given up for want of room on the way to the
  values of the arguments, both come to the same value or show
  the same failure.

  Once the arguments have values, the mean shows a division by
  zero just where the count is zero, and what it is taken of
  is found by the places of the values.
-/
theorem mean_eq_quotient
    {mean quotient count : List Char}
    {range criterion : Expr}
    {target : Option Expr}
    (hMean :
      Expr.ofBody mean =
        .ok (.call "AVERAGEIF"
          (range :: criterion :: target.toList)))
    (hQuotient :
      Expr.ofBody quotient =
        .ok (.binary .div
          (.call "SUMIF" (range :: criterion :: target.toList))
          (.call "COUNTIF" [range, criterion])))
    (hCount :
      Expr.ofBody count =
        .ok (.call "COUNTIF" [range, criterion]))
    (hRandom : ∀ other,
      (sheet.withFormula row col mean).grid.Reaches
          ⟨row, col⟩ other →
        ¬(sheet.withFormula row col mean).grid.IsRandomAt
          other)
    (hClock : ∀ index,
      sheet.surroundings.clock index =
        sheet.surroundings.clock 0)
    (hRoom : sheet.settings.memoize = false ∨
      ∀ values,
        (((sheet.withFormula row col mean).resolve
          (Expr.argumentValues
            (range :: criterion :: target.toList))).outcome
              (Progress.start.enter ⟨row, col⟩)).1 =
          .ok values →
        (sheet.withFormula row col mean).Calm
          ((sheet.withFormula row col mean).visits
            ⟨⟨row, col⟩, .start⟩)) :
    let visit : Visit := ⟨⟨row, col⟩, .start⟩
    let averaged := sheet.withFormula row col mean
    let divided := sheet.withFormula row col quotient
    let counted := sheet.withFormula row col count
    (averaged.result visit).mapError Failure.display =
        (divided.result visit).mapError Failure.display ∧
      ∀ values word targets,
        0 < sheet.settings.maxDepth →
        ((averaged.resolve
          (Expr.argumentValues
            (range :: criterion :: target.toList))).outcome
              (visit.progress.enter visit.cell)).1 =
          .ok (values :: word :: Option.toList targets) →
        ((averaged.result visit).mapError Failure.display =
            .error "#DIV/0!" ↔
          counted.result visit = .ok (.number 0.0)) ∧
        ∀ text verdict,
          word.toText = .ok text →
          (∀ value ∈ values.values,
            value.satisfies text = .ok (verdict value)) →
          (∀ value ∈ (targets.getD values).values,
            value.Coerces) →
          averaged.result visit =
            Call.meanOf
              (pairedAmounts verdict values.values
                (targets.getD values).values) := by
  intro visit averaged divided counted
  rcases Nat.eq_zero_or_pos sheet.settings.maxDepth with
    hFull | hDepth
  · refine ⟨?_, fun _ _ _ hDepth => ?_⟩
    · rw [result_withFormula_of_no_room sheet row col mean
        hFull, result_withFormula_of_no_room sheet row col
        quotient hFull]
    · rw [hFull] at hDepth
      cases hDepth
  have hAgain :
      ∀ found q,
        (averaged.resolve
          (Expr.matchedValues range criterion
            target)).outcome
              (visit.progress.enter visit.cell) =
          (.ok found, q) →
        ((averaged.resolve
            (Expr.pairValues range criterion)).outcome q).1 =
          .ok found.1 :=
    fun found q hFound =>
      sheet.pair_again_of_averageIf row col hMean hRandom
        hClock hRoom hDepth hFound
  have hAveraged :=
    (sheet.result_of_formula row col mean hDepth hMean).trans
      resolve_averageIf
  have hDivided :=
    (sheet.result_of_formula row col mean hDepth
      hQuotient).trans (resolve_quotient hAgain)
  have hCounted :=
    (sheet.result_of_formula row col mean hDepth hCount).trans
      resolve_countIf
  constructor
  · rw [hAveraged, hDivided]
    cases ((averaged.resolve
        (Expr.matchedValues range criterion target)).outcome
          (visit.progress.enter visit.cell)).1 with
    | error failure => rfl
    | ok found =>
        exact Call.meanOf_paired_eq found.1.1 found.1.2 found.2
  · intro values word targets _ hArguments
    have hFound := matched_of_arguments hArguments
    rw [hAveraged, hCounted, hFound, pair_of_matched hFound]
    refine ⟨Call.meanOf_paired_iff values word targets, ?_⟩
    intro text verdict hWord hVerdict hTargets
    have hPaired :
        Call.paired values word targets =
          .ok (pairedAmounts verdict values.values
            (targets.getD values).values) := by
      rw [Call.paired, hWord]
      exact matchingTargets_eq hVerdict hTargets
    change Call.paired values word targets >>= _ = _
    rw [hPaired]
    rfl

end Sheet

end Spreadsheet

------------------------------------------------------------
-- A Mean Of Paired Targets
------------------------------------------------------------

namespace Spreadsheet

/- A result with a value is this value. -/
theorem eq_ok_of_toOption
    {α : Type}
    {result : Except Failure α}
    {value : α}
    (hSome : result.toOption = some value) :
    result = .ok value := by
  cases result with
  | error failure => cases hSome
  | ok found => exact congrArg Except.ok (Option.some.inj hSome)

namespace Sheet

/-
  A sheet that keeps values, with numbers, one of which is
  computed, next to a number and a text.
-/
def scored : Sheet where
  grid :=
    [[some "1", some "10"], [some "=A1+4", some "x"],
      [some "7"]]
  settings := ⟨3, 10, true, false, 1⟩
  surroundings := .still

def scoredMean : List Char :=
  "AVERAGEIF(A1:A3,\">0\",B1:B2)".toList

def scoredQuotient : List Char :=
  "SUMIF(A1:A3,\">0\",B1:B2)/COUNTIF(A1:A3,\">0\")".toList

def scoredCount : List Char :=
  "COUNTIF(A1:A3,\">0\")".toList

/-
  All three numbers satisfy.  Their targets are a number, a
  text and nothing at all.
-/
theorem mean_eq_quotient_scored :
    let visit : Visit := ⟨⟨3, 0⟩, .start⟩
    let averaged := scored.withFormula 3 0 scoredMean
    let divided := scored.withFormula 3 0 scoredQuotient
    let counted := scored.withFormula 3 0 scoredCount
    averaged.Calm (averaged.visits visit) ∧
    (averaged.result visit).mapError Failure.display =
      (divided.result visit).mapError Failure.display ∧
    ((averaged.result visit).mapError Failure.display =
        .error "#DIV/0!" ↔
      counted.result visit = .ok (.number 0.0)) ∧
    averaged.result visit =
      Call.meanOf
        (pairedAmounts (fun _ => true)
          [.number 1, .number 5, .number 7]
          [.number 10, .text "x"]) ∧
    pairedAmounts (fun _ => true)
        [.number 1, .number 5, .number 7]
        [.number 10, .text "x"] =
      [10, 0, 0] := by
  intro visit averaged divided counted
  have hMean :
      Expr.ofBody scoredMean =
        .ok (.call "AVERAGEIF"
          (.range "A1:A3" :: .string "\">0\"" ::
            (some (.range "B1:B2")).toList)) := by
    rfl
  have hQuotient :
      Expr.ofBody scoredQuotient =
        .ok (.binary .div
          (.call "SUMIF"
            (.range "A1:A3" :: .string "\">0\"" ::
              (some (.range "B1:B2")).toList))
          (.call "COUNTIF"
            [.range "A1:A3", .string "\">0\""])) := by
    rfl
  have hCount :
      Expr.ofBody scoredCount =
        .ok (.call "COUNTIF"
          [.range "A1:A3", .string "\">0\""]) := by
    rfl
  have hRandom : ∀ cell, ¬averaged.grid.IsRandomAt cell :=
    Grid.not_isRandomAt (by decide +kernel)
  have hRoom :
      averaged.grid.formulaCells.length <
        averaged.settings.maxDepth := by
    decide +kernel
  have hCalm : averaged.Calm (averaged.visits visit) :=
    calm_of_room hRoom ⟨rfl, rfl⟩
  have hArguments :
      ((averaged.resolve
        (Expr.argumentValues
          (.range "A1:A3" :: .string "\">0\"" ::
            (some (.range "B1:B2")).toList))).outcome
              (visit.progress.enter visit.cell)).1.toOption =
        some
          (.area [.number 1, .number 5, .number 7] ::
            .scalar (.text ">0") ::
            (some (.area [.number 10, .text "x"])).toList) := by
    decide +kernel
  have hVerdict :
      ∀ value ∈ [Value.number 1, .number 5, .number 7],
        (value.satisfies ">0").toOption = some true := by
    decide +kernel
  have hTargets :
      ∀ value ∈ [Value.number 10, .text "x"],
        value.Coerces :=
    List.forall_mem_cons.mpr
      ⟨⟨_, rfl⟩, List.forall_mem_cons.mpr ⟨⟨_, rfl⟩, nofun⟩⟩
  rcases mean_eq_quotient scored 3 0 hMean hQuotient hCount
      (fun other _ => hRandom other) (fun _ => rfl)
      (.inr fun _ _ => hCalm) with ⟨hSame, hRest⟩
  rcases hRest _ _ _ (by decide)
      (eq_ok_of_toOption hArguments) with ⟨hZero, hPaired⟩
  exact ⟨hCalm, hSame, hZero,
    hPaired ">0" (fun _ => true) rfl
      (fun value hValue =>
        eq_ok_of_toOption (hVerdict value hValue))
      hTargets,
    by decide +kernel⟩

end Sheet

end Spreadsheet

------------------------------------------------------------
-- Means That Are No Quotients
------------------------------------------------------------

namespace Spreadsheet

namespace Sheet

/-
  A sheet that keeps values, with room for three cells and a
  clock.
-/
def retried
    (clock : Nat → Moment) :
    Sheet where
  grid :=
    [[some "=A2&\"!\""], [some "=A3"], [some "y"]]
  settings := ⟨3, 10, true, false, 1⟩
  surroundings := { Surroundings.still with clock }

def retriedMean : List Char :=
  "AVERAGEIF(IFERROR(A1,A3),\"y\")".toList

def retriedQuotient : List Char :=
  "SUMIF(IFERROR(A1,A3),\"y\")/".toList ++
    "COUNTIF(IFERROR(A1,A3),\"y\")".toList

/-
  There is no room for the third cell on the way to the first
  one, so that the fallback is taken for the sum.  By the time
  of the count the third cell is known and the first one has
  another value.
-/
theorem mean_ne_quotient_without_room :
    let visit : Visit := ⟨⟨3, 0⟩, .start⟩
    let sheet := retried fun _ => ⟨⟨2024, 3, 15⟩, 9, 30, 5⟩
    let averaged := sheet.withFormula 3 0 retriedMean
    let divided := sheet.withFormula 3 0 retriedQuotient
    let values :=
      Expr.call "IFERROR" [.cell "A1", .cell "A3"]
    Expr.ofBody retriedMean =
        .ok (.call "AVERAGEIF" [values, .string "\"y\""]) ∧
    Expr.ofBody retriedQuotient =
        .ok (.binary .div
          (.call "SUMIF" [values, .string "\"y\""])
          (.call "COUNTIF" [values, .string "\"y\""])) ∧
    (∀ cell, ¬averaged.grid.IsRandomAt cell) ∧
    averaged.result visit = .ok (.number 0.0) ∧
    (divided.result visit).mapError Failure.display =
      .error "#DIV/0!" := by
  intro visit sheet averaged divided values
  have hRandom : ∀ cell, ¬averaged.grid.IsRandomAt cell :=
    Grid.not_isRandomAt (by decide +kernel)
  have hMean : averaged.result visit = .ok (.number 0.0) := by
    decide +kernel
  have hQuotient :
      (divided.result visit).mapError Failure.display =
        .error "#DIV/0!" := by
    decide +kernel
  exact ⟨rfl, rfl, hRandom, hMean, hQuotient⟩

def hurriedMean : List Char :=
  "AVERAGEIF(NOW(),\"*:05\")".toList

def hurriedQuotient : List Char :=
  "SUMIF(NOW(),\"*:05\")/COUNTIF(NOW(),\"*:05\")".toList

/- Nor are they the same if the clock goes on in between. -/
theorem mean_ne_quotient_over_time :
    let visit : Visit := ⟨⟨3, 0⟩, .start⟩
    let sheet := retried fun index =>
      ⟨⟨2024, 3, 15⟩, 9, 30, 5 + index⟩
    let averaged := sheet.withFormula 3 0 hurriedMean
    let divided := sheet.withFormula 3 0 hurriedQuotient
    averaged.result visit = .ok (.number 0.0) ∧
    (divided.result visit).mapError Failure.display =
      .error "#DIV/0!" := by
  decide +kernel

end Sheet

end Spreadsheet
