import Spreadsheet.Coercion

/-
  Calls of functions.

  A call is a function with its evaluated arguments.  An
  argument that was left out is an empty text unless the
  function has another value for it.

  Key definitions include:
    * `Spreadsheet.Call`
    * `Spreadsheet.Call.checkLimit`
    * `Spreadsheet.Call.number`
    * `Spreadsheet.Call.word`
    * `Spreadsheet.Call.values`
    * `Spreadsheet.Call.list`
-/

------------------------------------------------------------
-- Calls
------------------------------------------------------------

namespace Spreadsheet

/- A function with its arguments. -/
structure Call where
  function : Function
  arguments : List Argument
deriving Repr

namespace Call

/- A function fails if it has too many arguments. -/
def checkLimit
    (function : Function)
    (count : Nat) :
    Except Failure Unit :=
  match function.limit? with
  | some limit =>
      if limit < count then
        .error (.tooManyArguments function limit)
      else
        .ok ()
  | none => .ok ()

/- An argument, or a value if it was left out. -/
def argument
    (call : Call)
    (index : Nat)
    (missing : Value) :
    Argument :=
  call.arguments.getD index (.scalar missing)

/- The number of an argument, or a number for none. -/
def numberOr
    (call : Call)
    (index : Nat)
    (missing : Value) :
    Except Failure Float :=
  (call.argument index missing).toNumber

/- The number of an argument. -/
def number
    (call : Call)
    (index : Nat) :
    Except Failure Float :=
  call.numberOr index .empty

/- The text of an argument. -/
def word
    (call : Call)
    (index : Nat) :
    Except Failure String :=
  (call.argument index .empty).toText

/- The values of all arguments, one by one. -/
def values
    (call : Call) :
    List Value :=
  Argument.flatten call.arguments

/- The numbers among the values of all arguments. -/
def numbers
    (call : Call) :
    Except Failure (List Float) :=
  Value.numbers call.values

/- The values of one argument. -/
def list
    (call : Call)
    (index : Nat) :
    List Value :=
  (call.argument index .empty).values

end Call

end Spreadsheet
