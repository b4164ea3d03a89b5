import Spreadsheet.Function.Answer
import Spreadsheet.Proofs.Function.Conditional

/-
  Conjunctions and disjunctions in another order.

  Both are one junction: it reads values until one of them
  ends it, and the first that does settles what is seen.  A
  value ends a junction if it decides it, if it has no number
  or if it is a whole number beyond the floats.  The order of
  the values is not seen exactly if all values that end the
  junction do so in the same way.

  Key definitions include:
    * `Spreadsheet.Function.junction`
    * `Spreadsheet.Ending`
    * `Spreadsheet.Value.ending?`
    * `Spreadsheet.Value.Unanimous`
    * `Spreadsheet.Answer.seen?`

  Main results:
    * `Spreadsheet.Value.junctionOf_seen`
    * `Spreadsheet.Value.findSome?_ending?_of_perm`
    * `Spreadsheet.Value.unanimous_of_numbers`
    * `Spreadsheet.Call.junction_ignores_order_iff`
    * `Spreadsheet.Call.junction_sees_order`
-/

------------------------------------------------------------
-- Junctions And Their Endings
------------------------------------------------------------

namespace Spreadsheet

/-
  The junction that a truth value decides: a conjunction is
  decided by a false value, a disjunction by a true one.
-/
def Function.junction :
    Bool → Function
  | false => .and
  | true => .or

/- How a value ends a junction. -/
inductive Ending where
  | decided
  | noNumber
  | tooGreat
deriving DecidableEq, Repr

namespace Ending

/- What is seen of a junction that ends so. -/
def seen
    (deciding : Bool) :
    Ending → Except String Value
  | decided => .ok (.ofBool deciding)
  | noNumber => .error "#VALUE!"
  | tooGreat => .error "#ERROR!"

/- What is seen tells how a junction ends. -/
theorem seen_injective
    {deciding : Bool}
    {first second : Ending}
    (hSeen : first.seen deciding = second.seen deciding) :
    first = second := by
  cases first <;> cases second <;> simp_all [seen]

end Ending

namespace Value

/- How a value ends a junction, if it does. -/
def ending?
    (deciding : Bool)
    (value : Value) :
    Option Ending :=
  match value.toNumber? with
  | .ok (some x) =>
      if (x != 0.0) = deciding then some .decided else none
  | .ok none => some .noNumber
  | .error _ => some .tooGreat

/- All values that end a junction do so in the same way. -/
def Unanimous
    (deciding : Bool)
    (values : List Value) :
    Prop :=
  ∃ ending, ∀ value ∈ values, ∀ given,
    value.ending? deciding = some given → given = ending

end Value

/- What is seen of a settled answer: the value, or the code. -/
def Answer.seen? :
    Answer → Option (Except String Value)
  | settled result => some (result.mapError Failure.display)
  | _ => none

end Spreadsheet

------------------------------------------------------------
-- What Is Seen Of A Junction
------------------------------------------------------------

namespace Spreadsheet

namespace Value

/- The truth value of a junction. -/
def junctionOf :
    Bool → List Value → Except Failure Bool
  | false => allTrue
  | true => someTrue

/- A value decides a junction, or the rest of them does. -/
theorem junctionOf_cons
    (deciding : Bool)
    (value : Value)
    (rest : List Value) :
    junctionOf deciding (value :: rest) =
      value.isTrue >>= fun truth =>
        if truth = deciding then .ok deciding
        else junctionOf deciding rest := by
  cases deciding with
  | false =>
      rw [junctionOf, allTrue]
      cases value.isTrue with
      | error failure => rfl
      | ok truth => cases truth <;> rfl
  | true =>
      rw [junctionOf, someTrue]
      cases value.isTrue with
      | error failure => rfl
      | ok truth => cases truth <;> rfl

/-
  The first value that ends a junction settles what is seen.
  If there is none, the junction has the other truth value.
-/
theorem junctionOf_seen
    (deciding : Bool)
    (values : List Value) :
    ((junctionOf deciding values).map ofBool).mapError
        Failure.display =
      (values.findSome? (ending? deciding)).elim
        (.ok (.ofBool !deciding)) (Ending.seen deciding) := by
  -- A value without a number, or with one too great, fails as
  -- its ending says; one that decides nothing is passed over.
  induction values with
  | nil => cases deciding <;> rfl
  | cons value rest ih =>
      rw [junctionOf_cons, List.findSome?_cons, isTrue,
        toNumber, ending?]
      cases hNumber : value.toNumber? with
      | error failure =>
          rw [value.toNumber?_failsOnly failure hNumber]
          rfl
      | ok x? =>
          cases x? with
          | none => rfl
          | some x =>
              change (Except.mapError Failure.display
                (Except.map ofBool
                  (if (x != 0.0) = deciding then _ else _))) = _
              by_cases hDecides : (x != 0.0) = deciding
              · simp only [if_pos hDecides]
                rfl
              · simp only [if_neg hDecides]
                exact ih

end Value

end Spreadsheet

------------------------------------------------------------
-- Junctions In Another Order
------------------------------------------------------------

namespace Spreadsheet

namespace Value

variable {deciding : Bool}
variable {values others : List Value}

/- If a value ends a junction, there is a first that does. -/
theorem exists_first_of_ending
    {value : Value}
    (hMember : value ∈ values)
    {ending : Ending}
    (hEnding : value.ending? deciding = some ending) :
    ∃ first,
      values.findSome? (ending? deciding) = some first := by
  rw [← Option.isSome_iff_exists, List.findSome?_isSome_iff]
  exact ⟨value, hMember, by rw [hEnding]; rfl⟩

/- Unanimous values end a junction as any of them does. -/
theorem findSome?_ending?_eq_some_iff
    (hAlike : Unanimous deciding values)
    {ending : Ending} :
    values.findSome? (ending? deciding) = some ending ↔
      ∃ value ∈ values,
        value.ending? deciding = some ending := by
  rcases hAlike with ⟨common, hCommon⟩
  constructor
  · exact List.exists_of_findSome?_eq_some
  · rintro ⟨value, hMember, hEnding⟩
    rcases exists_first_of_ending hMember hEnding with
      ⟨first, hFirst⟩
    rcases List.exists_of_findSome?_eq_some hFirst with
      ⟨other, hOther, hGiven⟩
    rw [hFirst, hCommon other hOther first hGiven,
      hCommon value hMember ending hEnding]

theorem findSome?_ending?_of_perm
    (hAlike : Unanimous deciding values)
    (hPerm : others.Perm values) :
    others.findSome? (ending? deciding) =
      values.findSome? (ending? deciding) := by
  have hOthers : Unanimous deciding others := by
    rcases hAlike with ⟨common, hCommon⟩
    exact ⟨common, fun value hMember =>
      hCommon value (hPerm.mem_iff.mp hMember)⟩
  apply Option.ext
  intro ending
  rw [findSome?_ending?_eq_some_iff hOthers,
    findSome?_ending?_eq_some_iff hAlike]
  simp only [hPerm.mem_iff]

/- Values that all have numbers can only decide it. -/
theorem unanimous_of_numbers
    (deciding : Bool)
    (hNumbers : ∀ value ∈ values, ∃ x,
      value.toNumber? = .ok (some x)) :
    Unanimous deciding values := by
  refine ⟨.decided, ?_⟩
  intro value hMember given hGiven
  rcases hNumbers value hMember with ⟨x, hNumber⟩
  simp only [ending?, hNumber, Option.ite_none_right_eq_some,
    Option.some.injEq] at hGiven
  exact hGiven.2.symm

/- Each value can be put in front of the others. -/
theorem exists_perm_of_ending
    {value : Value}
    (hMember : value ∈ values)
    {ending : Ending}
    (hEnding : value.ending? deciding = some ending) :
    ∃ others : List Value, others.Perm values ∧
      others.findSome? (ending? deciding) = some ending := by
  refine ⟨value :: values.erase value,
    (List.perm_cons_erase hMember).symm, ?_⟩
  rw [List.findSome?_cons, hEnding]

end Value

/- Values can be given as arguments, one by one. -/
theorem Argument.flatten_map_scalar
    (values : List Value) :
    flatten (values.map scalar) = values := by
  rw [flatten, List.flatMap_map]
  exact List.flatMap_singleton' values

namespace Call

/- A junction of arguments has their values as its own. -/
theorem answer_junction_seen?
    (deciding : Bool)
    (arguments : List Argument) :
    (answer ⟨.junction deciding, arguments⟩).seen? =
      some (((Argument.flatten arguments).findSome?
          (Value.ending? deciding)).elim
        (.ok (.ofBool !deciding)) (Ending.seen deciding)) := by
  rw [← Value.junctionOf_seen]
  cases deciding with
  | false => rfl
  | true => rfl

/-
  A value that ends a junction shows its ending if it is put
  in front, so that no other ending is among the values if the
  order is not seen.
-/
theorem unanimous_of_order
    {deciding : Bool}
    {arguments : List Argument}
    (hOrder : ∀ others, (Argument.flatten others).Perm
        (Argument.flatten arguments) →
      (answer ⟨.junction deciding, others⟩).seen? =
        (answer ⟨.junction deciding, arguments⟩).seen?) :
    Value.Unanimous deciding (Argument.flatten arguments) := by
  simp only [answer_junction_seen?] at hOrder
  refine ⟨((Argument.flatten arguments).findSome?
    (Value.ending? deciding)).getD .decided, ?_⟩
  intro value hMember given hGiven
  rcases Value.exists_first_of_ending hMember hGiven with
    ⟨first, hFirst⟩
  rcases Value.exists_perm_of_ending hMember hGiven with
    ⟨others, hPerm, hOther⟩
  rw [← Argument.flatten_map_scalar others] at hPerm
  have hSame := hOrder (others.map .scalar) hPerm
  rw [Argument.flatten_map_scalar, hOther, hFirst] at hSame
  rw [hFirst]
  exact Ending.seen_injective (Option.some.inj hSame)

/-
  A conjunction, or a disjunction, is what the first value
  that ends it makes of it, or what it is if none does.  Its
  arguments give the same in each order of their values if
  and only if all values that end it do so in the same way,
  as do values that all have numbers.
-/
theorem junction_ignores_order_iff
    (deciding : Bool)
    (arguments : List Argument) :
    (answer ⟨.junction deciding, arguments⟩).seen? =
      some (((Argument.flatten arguments).findSome?
          (Value.ending? deciding)).elim
        (.ok (.ofBool !deciding)) (Ending.seen deciding)) ∧
    ((∀ others, (Argument.flatten others).Perm
          (Argument.flatten arguments) →
        (answer ⟨.junction deciding, others⟩).seen? =
          (answer ⟨.junction deciding, arguments⟩).seen?) ↔
      Value.Unanimous deciding
        (Argument.flatten arguments)) ∧
    ((∀ value ∈ Argument.flatten arguments, ∃ x,
        value.toNumber? = .ok (some x)) →
      Value.Unanimous deciding
        (Argument.flatten arguments)) := by
  refine ⟨answer_junction_seen? deciding arguments, ⟨?_, ?_⟩,
    Value.unanimous_of_numbers deciding⟩
  · intro hOrder
    exact unanimous_of_order hOrder
  · intro hAlike others hPerm
    rw [answer_junction_seen?, answer_junction_seen?,
      Value.findSome?_ending?_of_perm hAlike hPerm]

/-
  A zero decides a conjunction in front of a word, but behind
  it the conjunction fails before.
-/
theorem junction_sees_order :
    let zero : Argument := .scalar (.number 0.0)
    let word : Argument := .scalar (.text "x")
    (Argument.flatten [word, zero]).Perm
        (Argument.flatten [zero, word]) ∧
      (answer ⟨.and, [zero, word]⟩).seen? =
        some (.ok (.number 0.0)) ∧
      (answer ⟨.and, [word, zero]⟩).seen? =
        some (.error "#VALUE!") := by
  intro zero word
  refine ⟨.swap _ _ _, ?_, ?_⟩
  · decide +kernel
  · decide +kernel

end Call

end Spreadsheet
