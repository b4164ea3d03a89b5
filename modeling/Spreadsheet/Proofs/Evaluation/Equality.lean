import Spreadsheet.Proofs.Criteria.Comparison

/-
  Equality in formulas.

  Two values are compared as numbers if both have one and as
  texts otherwise, so what decides on one pair need not decide
  on the next.  Still equality is an equivalence: a text that
  is the text of a number has an equal number itself, so texts
  only ever decide between two values without numbers.

  Key definitions include:
    * `Spreadsheet.Value.IsNumeric`
    * `Spreadsheet.Value.IsComparable`
    * `Spreadsheet.Value.Equals`
    * `Spreadsheet.Value.alike`

  Main results:
    * `Spreadsheet.Value.alike_of_toText`
    * `Spreadsheet.Value.sameAs_eq_alike`
    * `Spreadsheet.Value.equals_equivalence`
-/

------------------------------------------------------------
-- Values That Are Compared
------------------------------------------------------------

namespace Spreadsheet

namespace Value

open Number (isNaN)

/- A value has a number. -/
def IsNumeric
    (value : Value) : Prop :=
  ∃ x, value.toNumber? = .ok (some x)

/-
  It is no failure to ask for the number of a value, and the
  number is not the undefined one.
-/
structure IsComparable
    (value : Value) : Prop where
  coerces : value.Coerces
  isNaN_eq_false :
    ∀ x, value.toNumber? = .ok (some x) → isNaN x = false

/- A formula says that two values are equal. -/
def Equals
    (a b : Value) : Prop :=
  (BinaryOp.compare .eq).apply a b = .ok (.number 1.0)

/- A formula says that two values are equal if they are alike. -/
theorem equals_iff_sameAs
    {a b : Value} :
    a.Equals b ↔ a.sameAs b = .ok true := by
  have hOther : (0.0 : Float) ≠ 1.0 := by decide +kernel
  rw [Equals, BinaryOp.apply, compare]
  cases a.sameAs b with
  | error failure => simp [Except.map]
  | ok same =>
      cases same with
      | false => simp [Except.map, ofBool, hOther]
      | true => simp [Except.map, ofBool]

/- Two values differ in a formula unless they are equal in it. -/
theorem compare_ne_iff
    (a b : Value) :
    ((BinaryOp.compare .ne).apply a b = .ok (.number 1.0) ↔
      (BinaryOp.compare .eq).apply a b = .ok (.number 0.0)) ∧
    ((BinaryOp.compare .ne).apply a b = .ok (.number 0.0) ↔
      (BinaryOp.compare .eq).apply a b =
        .ok (.number 1.0)) := by
  have hOther : (0.0 : Float) ≠ 1.0 := by decide +kernel
  simp only [BinaryOp.apply, compare]
  cases a.sameAs b with
  | error failure => simp [Except.map]
  | ok same =>
      cases same with
      | false => simp [Except.map, ofBool, hOther, hOther.symm]
      | true => simp [Except.map, ofBool, hOther, hOther.symm]

end Value

end Spreadsheet

------------------------------------------------------------
-- Equality By Numbers And Texts
------------------------------------------------------------

namespace Spreadsheet

namespace Value

open Number (isNaN)

variable {a b c : Value}
variable {x? y? z? : Option Float}

/-
  Two values are alike if their numbers are equal, or if none
  of them has one and their texts are the same.
-/
def alike
    (a b : String)
    (x? y? : Option Float) :
    Bool :=
  match x?, y? with
  | some x, some y => x == y
  | none, none => a == b
  | _, _ => false

/- Values with one text are alike: both have equal numbers. -/
theorem alike_of_toText
    (hA : a.IsComparable)
    (hB : b.IsComparable)
    (hX : a.toNumber? = .ok x?)
    (hY : b.toNumber? = .ok y?)
    (hText : a.toText = b.toText) :
    alike a.toText b.toText x? y? = true := by
  have hOfText :
      ∀ {x : Float} {s : String} {y? : Option Float},
        isNaN x = false →
        s = (number x).toText →
        numberOfText s = .ok y? →
        ∃ y, y? = some y ∧ (x == y) = true := by
    rintro x _ y? hNumber rfl hRead
    rcases Number.numberOfText_toText hNumber with
      ⟨y, hOwn, hEqual⟩
    rw [toText, hOwn] at hRead
    cases hRead
    exact ⟨y, rfl, BEq.symm hEqual⟩
  cases a with
  | number x =>
      cases hX
      have hNumber := hA.isNaN_eq_false x rfl
      cases b with
      | number y =>
          cases hY
          exact (Number.beq_of_toText_eq
            (String.ofList_injective hText) hNumber).1
      | text s =>
          rcases hOfText hNumber hText.symm hY with
            ⟨y, rfl, hEqual⟩
          exact hEqual
  | text s =>
      cases b with
      | number y =>
          cases hY
          rcases hOfText (hB.isNaN_eq_false y rfl) hText hX
            with ⟨x, rfl, hEqual⟩
          exact BEq.symm hEqual
      | text t =>
          cases hText
          cases hX.symm.trans hY
          cases x? with
          | none => exact beq_self_eq_true s
          | some x =>
              exact Number.beq_self (hA.isNaN_eq_false x hX)

/- Equal values are alike, and no others are. -/
theorem sameAs_eq_alike
    (hA : a.IsComparable)
    (hB : b.IsComparable)
    (hX : a.toNumber? = .ok x?)
    (hY : b.toNumber? = .ok y?) :
    a.sameAs b = .ok (alike a.toText b.toText x? y?) := by
  -- Of two values one of which has a number, the texts differ.
  have hMixed :
      alike a.toText b.toText x? y? = false →
        (a.toText == b.toText) = false := by
    intro hAlike
    rw [beq_eq_false_iff_ne]
    intro hText
    rw [alike_of_toText hA hB hX hY hText] at hAlike
    cases hAlike
  rw [sameAs, hX, hY]
  cases x? with
  | none =>
      cases y? with
      | none => rfl
      | some y => exact congrArg Except.ok (hMixed rfl)
  | some x =>
      cases y? with
      | none => exact congrArg Except.ok (hMixed rfl)
      | some y => rfl

/- Two values are equal exactly if they are alike. -/
theorem equals_iff_alike
    (hA : a.IsComparable)
    (hB : b.IsComparable)
    (hX : a.toNumber? = .ok x?)
    (hY : b.toNumber? = .ok y?) :
    a.Equals b ↔ alike a.toText b.toText x? y? = true := by
  rw [equals_iff_sameAs, sameAs_eq_alike hA hB hX hY,
    Except.ok.injEq]

/- Values without an undefined number are alike themselves. -/
theorem alike_refl
    (hX : ∀ x, x? = some x → isNaN x = false)
    (s : String) :
    alike s s x? x? = true := by
  cases x? with
  | none => exact beq_self_eq_true s
  | some x => exact Number.beq_self (hX x rfl)

/- Likeness has no direction. -/
theorem alike_symm
    {s t : String}
    (hAlike : alike s t x? y? = true) :
    alike t s y? x? = true := by
  cases x? with
  | none =>
      cases y? with
      | none => exact BEq.symm hAlike
      | some y => cases hAlike
  | some x =>
      cases y? with
      | none => cases hAlike
      | some y => exact BEq.symm (α := Float) hAlike

/- What is alike to the same value is alike. -/
theorem alike_trans
    {s t u : String}
    (hFirst : alike s t x? y? = true)
    (hSecond : alike t u y? z? = true) :
    alike s u x? z? = true := by
  cases x? with
  | none =>
      cases y? with
      | some y => cases hFirst
      | none =>
          cases z? with
          | some z => cases hSecond
          | none => exact BEq.trans hFirst hSecond
  | some x =>
      cases y? with
      | none => cases hFirst
      | some y =>
          cases z? with
          | none => cases hSecond
          | some z => exact BEq.trans (α := Float) hFirst hSecond

end Value

end Spreadsheet

------------------------------------------------------------
-- Equality As An Equivalence
------------------------------------------------------------

namespace Spreadsheet

namespace Value

open Number (isNaN)

variable {a b c : Value}

/- A value is equal to itself. -/
theorem equals_refl
    (hA : a.IsComparable) :
    a.Equals a := by
  rcases hA.coerces with ⟨x?, hX⟩
  refine (equals_iff_alike hA hA hX hX).mpr (alike_refl ?_ _)
  rintro x rfl
  exact hA.isNaN_eq_false x hX

/- Equality has no direction. -/
theorem Equals.symm
    (hA : a.IsComparable)
    (hB : b.IsComparable)
    (hEquals : a.Equals b) :
    b.Equals a := by
  rcases hA.coerces with ⟨x?, hX⟩
  rcases hB.coerces with ⟨y?, hY⟩
  rw [equals_iff_alike hA hB hX hY] at hEquals
  rw [equals_iff_alike hB hA hY hX]
  exact alike_symm hEquals

/- What is equal to the same value is equal. -/
theorem Equals.trans
    (hA : a.IsComparable)
    (hB : b.IsComparable)
    (hC : c.IsComparable)
    (hFirst : a.Equals b)
    (hSecond : b.Equals c) :
    a.Equals c := by
  rcases hA.coerces with ⟨x?, hX⟩
  rcases hB.coerces with ⟨y?, hY⟩
  rcases hC.coerces with ⟨z?, hZ⟩
  rw [equals_iff_alike hA hB hX hY] at hFirst
  rw [equals_iff_alike hB hC hY hZ] at hSecond
  rw [equals_iff_alike hA hC hX hZ]
  exact alike_trans hFirst hSecond

/- Of two equal values both have a number or none. -/
theorem Equals.isNumeric_iff
    (hA : a.IsComparable)
    (hB : b.IsComparable)
    (hEquals : a.Equals b) :
    a.IsNumeric ↔ b.IsNumeric := by
  rcases hA.coerces with ⟨x?, hX⟩
  rcases hB.coerces with ⟨y?, hY⟩
  rw [equals_iff_alike hA hB hX hY] at hEquals
  rw [IsNumeric, IsNumeric, hX, hY]
  cases x? with
  | none =>
      cases y? with
      | none => rfl
      | some y => cases hEquals
  | some x =>
      cases y? with
      | none => cases hEquals
      | some y => exact ⟨fun _ => ⟨y, rfl⟩, fun _ => ⟨x, rfl⟩⟩

/- A formula always tells whether two values are equal. -/
theorem compare_eq_decides
    (hA : a.IsComparable)
    (hB : b.IsComparable) :
    (BinaryOp.compare .eq).apply a b = .ok (.number 1.0) ∨
      (BinaryOp.compare .eq).apply a b =
        .ok (.number 0.0) := by
  rcases hA.coerces with ⟨x?, hX⟩
  rcases hB.coerces with ⟨y?, hY⟩
  rw [BinaryOp.apply, compare, sameAs_eq_alike hA hB hX hY]
  cases alike a.toText b.toText x? y? with
  | false => exact .inr rfl
  | true => exact .inl rfl

/-
  Equality in formulas is an equivalence on all values whose
  numbers can be asked for and are not the undefined one.  No
  value with a number is equal to a text without one, and what
  is not equal is different.
-/
theorem equals_equivalence :
    Equivalence
      (fun a b : {value : Value // value.IsComparable} =>
        a.val.Equals b.val) ∧
    (∀ a b : Value, a.IsComparable → b.IsComparable →
      ((BinaryOp.compare .eq).apply a b = .ok (.number 1.0) ∨
        (BinaryOp.compare .eq).apply a b =
          .ok (.number 0.0)) ∧
      (a.IsNumeric → ¬ b.IsNumeric →
        (BinaryOp.compare .eq).apply a b =
            .ok (.number 0.0) ∧
          (BinaryOp.compare .eq).apply b a =
            .ok (.number 0.0))) ∧
    (∀ a b : Value,
      ((BinaryOp.compare .ne).apply a b = .ok (.number 1.0) ↔
        (BinaryOp.compare .eq).apply a b =
          .ok (.number 0.0)) ∧
      ((BinaryOp.compare .ne).apply a b = .ok (.number 0.0) ↔
        (BinaryOp.compare .eq).apply a b =
          .ok (.number 1.0))) := by
  refine ⟨⟨?_, ?_, ?_⟩, ?_, compare_ne_iff⟩
  · exact fun a => equals_refl a.property
  · exact fun {a b} => Equals.symm a.property b.property
  · exact fun {a b c} =>
      Equals.trans a.property b.property c.property
  · intro a b hA hB
    refine ⟨compare_eq_decides hA hB, ?_⟩
    intro hNumeric hText
    constructor
    · refine (compare_eq_decides hA hB).resolve_left ?_
      intro hEquals
      exact hText
        ((Equals.isNumeric_iff hA hB hEquals).mp hNumeric)
    · refine (compare_eq_decides hB hA).resolve_left ?_
      intro hEquals
      exact hText
        ((Equals.isNumeric_iff hB hA hEquals).mpr hNumeric)

/- A number, a text of an equal number and another text. -/
theorem equals_equivalence_tenth :
    (number 0.1).IsComparable ∧
    (text " 1e-1 ").IsComparable ∧
    (text "x").IsComparable ∧
    (number 0.1).IsNumeric ∧
    ¬ (text "x").IsNumeric ∧
    (number 0.1).Equals (text " 1e-1 ") ∧
    (text " 1e-1 ").Equals (number 0.1) ∧
    (BinaryOp.compare .eq).apply (number 0.1) (text "x") =
      .ok (.number 0.0) ∧
    (BinaryOp.compare .ne).apply (number 0.1) (text "x") =
      .ok (.number 1.0) := by
  have hNumber : (number 0.1).IsComparable := by
    refine ⟨⟨_, rfl⟩, ?_⟩
    rintro x ⟨⟩
    decide +kernel
  have hTenth :
      (text " 1e-1 ").toNumber? = .ok (some 0.1) := by
    rfl
  have hSpelt : (text " 1e-1 ").IsComparable := by
    refine ⟨⟨_, hTenth⟩, ?_⟩
    intro x hX
    cases hTenth.symm.trans hX
    decide +kernel
  have hNone : (text "x").toNumber? = .ok none := by
    rfl
  have hWord : (text "x").IsComparable := by
    refine ⟨⟨_, hNone⟩, ?_⟩
    intro x hX
    cases hNone.symm.trans hX
  have hNoNumber : ¬ (text "x").IsNumeric := by
    rintro ⟨x, hX⟩
    cases hNone.symm.trans hX
  have hEquals : (number 0.1).Equals (text " 1e-1 ") := by
    rfl
  rcases equals_equivalence with ⟨hEquivalence, hMixed, hNe⟩
  have hDiffer :=
    ((hMixed (number 0.1) (text "x") hNumber hWord).2
      ⟨_, rfl⟩ hNoNumber).1
  exact ⟨hNumber, hSpelt, hWord, ⟨_, rfl⟩, hNoNumber, hEquals,
    hEquivalence.symm (x := ⟨_, hNumber⟩) (y := ⟨_, hSpelt⟩)
      hEquals,
    hDiffer, (hNe _ _).1.mpr hDiffer⟩

end Value

end Spreadsheet
