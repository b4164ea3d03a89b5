import Spreadsheet.Failure
import Spreadsheet.Formula.Lexer

/-
  Reading lexemes as a formula.

  A reading is what has been understood so far: the operators
  and brackets that are still open and, unless an operand
  must follow, the operand behind them.  A lexeme is accepted
  if some formula goes on with it.  Reading stops at the
  first lexeme that is not accepted, and what was read up to
  there must be a formula.

  Key definitions include:
    * `Spreadsheet.Reading`
    * `Spreadsheet.Reading.step?`
    * `Spreadsheet.Reading.finish?`
    * `Spreadsheet.Reading.advance`
    * `Spreadsheet.Expr.ofBody`
    * `Spreadsheet.Expr.ofFormula`
-/

------------------------------------------------------------
-- Readings
------------------------------------------------------------

namespace Spreadsheet

/- What is still open in front of an operand. -/
inductive Frame where
  | unary (op : UnaryOp)
  | binary (op : BinaryOp) (left : Expr)
  | group
  | call (name : String) (arguments : List Expr)
deriving Repr

/-
  The state of a reading, with the innermost frame first: an
  operand must follow, the bracket of a call must follow, or
  an operand was read.
-/
inductive Reading where
  | expecting (stack : List Frame)
  | named (name : String) (stack : List Frame)
  | holding (stack : List Frame) (operand : Expr)
deriving Repr

namespace Reading

/- Nothing was read. -/
def start : Reading := .expecting []

/-
  Apply the open operators whose level is at least the given
  one to an operand; those in front bind closer than any.
-/
def absorb
    (level : Nat) :
    List Frame → Expr → List Frame × Expr
  | .unary op :: stack, operand =>
      absorb level stack (.unary op operand)
  | .binary op left :: stack, operand =>
      if level ≤ op.level then
        absorb level stack (.binary op left operand)
      else
        (.binary op left :: stack, operand)
  | stack, operand => (stack, operand)

/- The leaf that a lexeme is, if it is one. -/
def leaf?
    (lexeme : Lexeme) :
    Option Expr :=
  let written := String.ofList lexeme.written
  match lexeme.kind with
  | .number => some (.number written)
  | .string => some (.string written)
  | .word => some (.word written)
  | .boolean => some (.boolean written)
  | .cell => some (.cell written)
  | .range => some (.range written)
  | _ => none

/- Read a lexeme where an operand must follow. -/
def stepExpecting?
    (stack : List Frame)
    (lexeme : Lexeme) :
    Option Reading :=
  match lexeme.kind with
  | .operator op =>
      (UnaryOp.ofBinary? op).map fun op =>
        .expecting (.unary op :: stack)
  | .openParen => some (.expecting (.group :: stack))
  | .function =>
      some (.named (String.ofList lexeme.written) stack)
  | .closeParen =>
      match stack with
      | .call name [] :: stack =>
          some (.holding stack (.call name []))
      | _ => none
  | _ => (leaf? lexeme).map (.holding stack)

/- Read a lexeme behind an operand. -/
def stepHolding?
    (stack : List Frame)
    (operand : Expr)
    (lexeme : Lexeme) :
    Option Reading :=
  match lexeme.kind with
  | .operator op =>
      let (stack, operand) := absorb op.level stack operand
      some (.expecting (.binary op operand :: stack))
  | .comma =>
      match absorb 0 stack operand with
      | (.call name arguments :: stack, operand) =>
          some (.expecting
            (.call name (arguments ++ [operand]) :: stack))
      | _ => none
  | .closeParen =>
      match absorb 0 stack operand with
      | (.group :: stack, operand) =>
          some (.holding stack operand)
      | (.call name arguments :: stack, operand) =>
          some (.holding stack
            (.call name (arguments ++ [operand])))
      | _ => none
  | _ => none

/- Read one lexeme, if some formula goes on with it. -/
def step?
    (reading : Reading)
    (lexeme : Lexeme) :
    Option Reading :=
  match reading with
  | .expecting stack => stepExpecting? stack lexeme
  | .named name stack =>
      if lexeme.kind = .openParen then
        some (.expecting (.call name [] :: stack))
      else
        none
  | .holding stack operand =>
      stepHolding? stack operand lexeme

/- The formula that was read, if it is complete. -/
def finish? :
    Reading → Option Expr
  | .holding stack operand =>
      match absorb 0 stack operand with
      | ([], formula) => some formula
      | _ => none
  | _ => none

/-
  Read lexemes as far as they are accepted; the second result
  is the last one that was, or `last` if none was.
-/
def advance
    (reading : Reading)
    (last : Lexeme) :
    List Lexeme → Reading × Lexeme
  | [] => (reading, last)
  | lexeme :: rest =>
      match reading.step? lexeme with
      | some next => next.advance lexeme rest
      | none => (reading, last)

end Reading

end Spreadsheet

------------------------------------------------------------
-- Reading Formulas
------------------------------------------------------------

namespace Spreadsheet

/-
  The line and the column of an offset, both counted from
  one.  Only a line feed ends a line.
-/
def lineAndColumn
    (text : List Char)
    (offset : Nat) :
    Nat × Nat :=
  let before := text.take offset
  (before.count '\n' + 1,
    (before.reverse.takeWhile (· ≠ '\n')).length + 1)

namespace Expr

/- The formula that lexemes start with. -/
def ofLexemes
    (text : List Char) :
    List Lexeme → Except ReadFault Expr
  | [] => .error (.empty text.length)
  | first :: rest =>
      let (reading, last) :=
        Reading.start.advance first (first :: rest)
      match reading.finish? with
      | some formula => .ok formula
      | none =>
          let (line, column) := lineAndColumn text last.start
          .error (.incomplete line column last.start)

/- The formula of a text without the mark of a formula. -/
def ofBody
    (body : List Char) :
    Except ReadFault Expr :=
  ofLexemes body (Lexeme.scan body)

/- The formula of a text behind an equals sign. -/
def ofFormula
    (text : String) :
    Except ReadFault Expr :=
  match text.toList with
  | '=' :: body => ofBody body
  | _ => .error .unmarked

end Expr

end Spreadsheet
