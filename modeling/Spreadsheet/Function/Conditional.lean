import Spreadsheet.Criteria
import Spreadsheet.Function.Call

/-
  Conditional totals.

  The values of a list that satisfy a criterion are paired by
  position with targets.  A target that is missing or no
  number counts as zero.

  Key definitions include:
    * `Spreadsheet.Call.targets`
    * `Spreadsheet.Call.countIf`
    * `Spreadsheet.Call.sumIf`
    * `Spreadsheet.Call.averageIf`
-/

------------------------------------------------------------
-- Matching Values
------------------------------------------------------------

namespace Spreadsheet

/- The number of a target, zero if it has none. -/
def targetNumber
    (target : Option Value) :
    Except Failure Float :=
  match target with
  | none => .ok 0.0
  | some value => value.toNumber?.map fun x => x.getD 0.0

/- The numbers of the targets of the values that satisfy. -/
def matchingTargets
    (criterion : String) :
    (values targets : List Value) →
      Except Failure (List Float)
  | [], _ => .ok []
  | value :: values, targets => do
      if ← value.satisfies criterion then
        let x ← targetNumber targets.head?
        let xs ←
          matchingTargets criterion values (targets.drop 1)
        return x :: xs
      else
        matchingTargets criterion values (targets.drop 1)

/- How many values satisfy. -/
def countMatching
    (criterion : String) :
    List Value → Except Failure Nat
  | [] => .ok 0
  | value :: values => do
      let here ← value.satisfies criterion
      let n ← countMatching criterion values
      return if here then n + 1 else n

end Spreadsheet

------------------------------------------------------------
-- Totals
------------------------------------------------------------

namespace Spreadsheet

namespace Call

/- The values of a list that has to be one value or an area. -/
def criteriaValues
    (call : Call) :
    List Value :=
  call.list 0

/- The numbers of the targets; the values if there are none. -/
def targets
    (call : Call) :
    Except Failure (List Float) := do
  let values := call.criteriaValues
  let criterion ← call.word 1
  let targets :=
    if call.arguments.length ≤ 2 then values else call.list 2
  matchingTargets criterion values targets

/- How many values satisfy a criterion. -/
def countIf
    (call : Call) :
    Except Failure Value := do
  let criterion ← call.word 1
  let n ← countMatching criterion call.criteriaValues
  return .number (Number.ofInt n)

/- The sum of the targets of values that satisfy. -/
def sumIf
    (call : Call) :
    Except Failure Value := do
  return .number (Value.total (← call.targets))

/- The mean of the targets of values that satisfy. -/
def averageIf
    (call : Call) :
    Except Failure Value := do
  let xs ← call.targets
  if xs.isEmpty then
    throw .averageIfOfNothing
  return .number
    (Value.total xs / Number.ofInt xs.length)

end Call

end Spreadsheet
