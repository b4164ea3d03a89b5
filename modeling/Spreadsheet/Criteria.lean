import Spreadsheet.Coercion
import Spreadsheet.Comparison
import Spreadsheet.Criteria.Pattern

/-
  Criteria.

  A criterion is a comparison with an operand, a pattern with
  wildcards or a plain text.  Two sides that are numbers are
  compared as numbers.  Otherwise a comparison tells only
  whether the texts are the same, and a plain text matches
  the same text in either case.

  Key definitions include:
    * `Spreadsheet.Criterion`
    * `Spreadsheet.Criterion.ofText`
    * `Spreadsheet.Criterion.accepts`
    * `Spreadsheet.Value.satisfies`
    * `Spreadsheet.Datum.satisfies`
-/

------------------------------------------------------------
-- Criteria
------------------------------------------------------------

namespace Spreadsheet

/- A condition on values. -/
inductive Criterion where
  | comparison (op : Comparison) (operand : String)
  | pattern (pieces : List Pattern.Piece)
  | plain (text : String)
deriving Repr

namespace Criterion

/- Split a comparison off a text; longer symbols come first. -/
def splitComparison? :
    List Char → Option (Comparison × List Char)
  | '<' :: '>' :: rest => some (.ne, rest)
  | '>' :: '=' :: rest => some (.ge, rest)
  | '<' :: '=' :: rest => some (.le, rest)
  | '>' :: rest => some (.gt, rest)
  | '<' :: rest => some (.lt, rest)
  | '=' :: rest => some (.eq, rest)
  | _ => none

/- The criterion that a text stands for. -/
def ofText
    (text : String) :
    Criterion :=
  match splitComparison? text.toList with
  | some (op, operand) =>
      .comparison op (String.ofList operand)
  | none =>
      if Pattern.hasWildcard text.toList then
        .pattern (Pattern.ofText text.toList)
      else
        .plain text

end Criterion

end Spreadsheet

------------------------------------------------------------
-- Satisfaction
------------------------------------------------------------

namespace Spreadsheet

namespace Criterion

/-
  The numbers of an operand and of a value, if both are some.
-/
def bothNumbers?
    (operand : String)
    (number : Except Failure (Option Float)) :
    Except Failure (Option (Float × Float)) := do
  let y ← Value.numberOfText operand
  let x ← number
  return match x, y with
    | some x, some y => some (x, y)
    | _, _ => none

/- A comparison of texts that are not both numbers. -/
def comparesText
    (op : Comparison)
    (text operand : String) :
    Bool :=
  match op with
  | .eq => text == operand
  | .ne => text != operand
  | _ => false

/- Two texts are the same in lower case. -/
def sameLower
    (a b : String) :
    Bool :=
  Text.lower a.toList == Text.lower b.toList

/- A value with a text and maybe a number is accepted. -/
def accepts
    (criterion : Criterion)
    (text : String)
    (number : Except Failure (Option Float)) :
    Except Failure Bool := do
  match criterion with
  | comparison op operand =>
      match ← bothNumbers? operand number with
      | some (x, y) => return op.holds x y
      | none => return comparesText op text operand
  | pattern pieces => return Pattern.accepts pieces text.toList
  | plain operand =>
      match ← bothNumbers? operand number with
      | some (x, y) => return x == y
      | none => return sameLower text operand

end Criterion

/- A value satisfies the criterion of a text. -/
def Value.satisfies
    (value : Value)
    (criterion : String) :
    Except Failure Bool :=
  (Criterion.ofText criterion).accepts value.toText
    value.toNumber?

/- Data satisfy the criterion of a text. -/
def Datum.satisfies
    (datum : Datum)
    (criterion : String) :
    Except Failure Bool := do
  let text ← datum.toText
  (Criterion.ofText criterion).accepts text datum.toNumber?

end Spreadsheet
