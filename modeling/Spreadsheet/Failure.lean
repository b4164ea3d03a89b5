import Spreadsheet.Address
import Spreadsheet.Function.Name
import Spreadsheet.Value

/-
  Why an evaluation fails.

  A failure is its cause.  Most causes are formula errors:
  they have a code that the cell shows, and `IFERROR` catches
  all of them but circular references.  The remaining causes
  are faults of the machine that computes; no formula catches
  them and the log names them.

  Key definitions include:
    * `Spreadsheet.ReadFault`
    * `Spreadsheet.Failure`
    * `Spreadsheet.Failure.isFormulaError`
    * `Spreadsheet.Failure.isCaught`
    * `Spreadsheet.Failure.code`
    * `Spreadsheet.Failure.display`
    * `Spreadsheet.Failure.message`
    * `Spreadsheet.Failure.machineName`
-/

------------------------------------------------------------
-- Causes
------------------------------------------------------------

namespace Spreadsheet

/-
  Why a text is no formula: it does not start as one, it has
  no lexemes, or it ends before the formula is complete.  The
  place of an incomplete formula is its last lexeme.
-/
inductive ReadFault where
  | unmarked
  | empty (position : Nat)
  | incomplete (line column position : Nat)
deriving DecidableEq, Repr

/- Operations on numbers that are not defined everywhere. -/
inductive Operation where
  | ceil
  | exp
  | floor
  | fmod
  | log
  | pow
deriving DecidableEq, Repr

/- Why an operation has no result. -/
inductive Obstacle where
  | domain
  | range
  | infinite
  | undefined
deriving DecidableEq, Repr

/- The causes of failed evaluations. -/
inductive Failure where
  /- Texts that cannot be read. -/
  | unreadable (fault : ReadFault)
  | label (fault : LabelFault)
  /- Calls that are not possible. -/
  | tooManyArguments (function : Function) (limit : Nat)
  | shapelessLookup
  | unknownFunction (name : String)
  /- References that lead nowhere. -/
  | tooDeep (limit : Nat)
  | circular (path : List Cell)
  /- Operands of the wrong kind. -/
  | severalValues
  | notANumber (operand : Datum)
  | malformedNumber (text : String)
  | invalidCount (function : Function) (count : Float)
  | invalidStart (function : Function) (start : Float)
  | notFound (function : Function) (needle : String)
  | unreadableDate (text : String)
  | invalidSerial (serial : Float)
  /- Divisions by zero. -/
  | divisionByZero
  | remainderByZero
  | modByZero
  | averageOfNothing
  | averageIfOfNothing
  | stdevOfTooFew
  | zeroSignificance (function : Function)
  | logOfBaseOne
  /- Results that no number has. -/
  | negativeRoot (operand : Float)
  | undefined
      (operation : Operation)
      (operands : List Float)
      (obstacle : Obstacle)
  /- Faults of the machine. -/
  | zeroFactor
  | wholeTooGreat
  | countTooGreat
  | textTooLong
  | joinedTooLong
  | replacedTooLong
  | noMemory
  | spreadOfInfinity
  | spreadTooGreat
deriving Repr

end Spreadsheet

------------------------------------------------------------
-- Kinds Of Failures
------------------------------------------------------------

namespace Spreadsheet

namespace Failure

/-
  The name under which the log records a fault of the
  machine; formula errors have none.
-/
def machineName? :
    Failure → Option String
  | label (.rowTooLong _) => some "ValueError"
  | zeroFactor => some "ZeroDivisionError"
  | wholeTooGreat => some "OverflowError"
  | countTooGreat => some "OverflowError"
  | textTooLong => some "OverflowError"
  | joinedTooLong => some "OverflowError"
  | replacedTooLong => some "OverflowError"
  | noMemory => some "MemoryError"
  | spreadOfInfinity => some "AttributeError"
  | spreadTooGreat => some "OverflowError"
  | _ => none

/- A formula error has a code of its own. -/
def isFormulaError
    (failure : Failure) :
    Bool :=
  failure.machineName?.isNone

/- A failure that closes a circle of references. -/
def isCircular :
    Failure → Bool
  | circular _ => true
  | _ => false

/- A failure in whose place `IFERROR` gives its fallback. -/
def isCaught
    (failure : Failure) :
    Bool :=
  failure.isFormulaError && !failure.isCircular

/- The code of failures that have none of their own. -/
def genericCode : String := "#ERROR!"

/- The code that stands for a failure. -/
def code :
    Failure → String
  | unknownFunction _ => "#NAME?"
  | circular _ => "#CIRC!"
  | severalValues => "#VALUE!"
  | notANumber _ => "#VALUE!"
  | malformedNumber _ => "#VALUE!"
  | invalidCount _ _ => "#VALUE!"
  | invalidStart _ _ => "#VALUE!"
  | notFound _ _ => "#VALUE!"
  | unreadableDate _ => "#VALUE!"
  | invalidSerial _ => "#VALUE!"
  | divisionByZero => "#DIV/0!"
  | remainderByZero => "#DIV/0!"
  | modByZero => "#DIV/0!"
  | averageOfNothing => "#DIV/0!"
  | averageIfOfNothing => "#DIV/0!"
  | stdevOfTooFew => "#DIV/0!"
  | zeroSignificance _ => "#DIV/0!"
  | logOfBaseOne => "#DIV/0!"
  | negativeRoot _ => "#NUM!"
  | undefined _ _ _ => "#NUM!"
  | _ => genericCode

/-
  What the failing cell shows: the code, for an unknown
  function also its name.
-/
def display
    (failure : Failure) :
    String :=
  match failure with
  | unknownFunction name =>
      failure.code ++ " (" ++ name ++ ")"
  | _ => failure.code

end Failure

end Spreadsheet

------------------------------------------------------------
-- Messages
------------------------------------------------------------

namespace Spreadsheet

/- A natural number in a message. -/
def shownNat
    (n : Nat) :
    String :=
  String.ofList (Text.decimal n)

/- A float in a message. -/
def shownFloat
    (x : Float) :
    String :=
  String.ofList (Number.toMessage x)

/- A text in a message, in quotes. -/
def shownText
    (s : String) :
    String :=
  String.ofList (Text.quoted s.toList)

namespace LabelFault

/- The message of a label that cannot be read. -/
def message :
    LabelFault → String
  | malformed label => "Invalid reference: " ++ shownText label
  | rowTooLong digits => Text.overlongMessage digits

end LabelFault

namespace ReadFault

/- Where a text stops being a formula. -/
def position :
    ReadFault → Nat
  | unmarked => 0
  | empty position => position
  | incomplete _ _ position => position

/- What is wrong with a text that is no formula. -/
def cause :
    ReadFault → String
  | unmarked => "Formula must start with '='"
  | empty _ => "Unexpected end of formula"
  | incomplete line column _ =>
      "Unexpected token Token('$END', '') at line " ++
        shownNat line ++ ", column " ++ shownNat column ++ "."

/- The message of a text that is no formula. -/
def message
    (fault : ReadFault) :
    String :=
  "Formula parse error: " ++ fault.cause ++
    " (at position " ++ shownNat fault.position ++ ")"

end ReadFault

namespace Operation

/- The name of an operation in messages. -/
def name :
    Operation → String
  | ceil => "ceil"
  | exp => "exp"
  | floor => "floor"
  | fmod => "fmod"
  | log => "log"
  | pow => "pow"

end Operation

namespace Obstacle

/- The words for an obstacle in messages. -/
def message :
    Obstacle → String
  | domain => "math domain error"
  | range => "math range error"
  | infinite => "cannot convert float infinity to integer"
  | undefined => "cannot convert float NaN to integer"

end Obstacle

namespace Failure

/- Operands in brackets, a single one with a comma. -/
def operandList
    (operands : List Float) :
    String :=
  match operands with
  | [x] => "(" ++ shownFloat x ++ ",)"
  | _ =>
      "(" ++ ", ".intercalate (operands.map shownFloat) ++ ")"

/- The limit on the arguments of a function, in words. -/
def argumentLimit
    (function : Function)
    (limit : Nat) :
    String :=
  function.name ++ " takes at most " ++ shownNat limit ++
    (if limit = 1 then " argument" else " arguments")

/- The message of a failure. -/
def message :
    Failure → String
  | unreadable fault => fault.message
  | label fault => fault.message
  | tooManyArguments function limit =>
      argumentLimit function limit
  | shapelessLookup => "VLOOKUP requires range context"
  | unknownFunction name =>
      "Unknown function: " ++ shownText name
  | tooDeep limit =>
      "Reference chain deeper than " ++ shownNat limit ++
        " cells"
  | circular path =>
      "Circular cell reference: " ++
        " -> ".intercalate (path.map Cell.label)
  | severalValues =>
      "Range used where a single value is expected"
  | notANumber operand =>
      "Not a number: " ++ String.ofList operand.shown
  | malformedNumber text =>
      "Malformed number: " ++ shownText text
  | invalidCount function count =>
      function.name ++ ": invalid count " ++ shownFloat count
  | invalidStart function start =>
      function.name ++ ": invalid start position " ++
        shownFloat start
  | notFound function needle =>
      function.name ++ ": " ++ shownText needle ++ " not found"
  | unreadableDate text =>
      "Cannot parse date string: " ++ shownText text
  | invalidSerial serial =>
      "Invalid Excel serial number: " ++ shownFloat serial
  | divisionByZero => "Division by zero in formula"
  | remainderByZero => "Modulo by zero in formula"
  | modByZero => "MOD by zero"
  | averageOfNothing => "AVERAGE of no numeric values"
  | averageIfOfNothing => "AVERAGEIF matched no values"
  | stdevOfTooFew =>
      "STDEV requires at least 2 numeric values"
  | zeroSignificance function =>
      function.name ++ " with zero significance"
  | logOfBaseOne => "LOG with base 1"
  | negativeRoot operand =>
      "SQRT of negative number " ++ shownFloat operand
  | undefined operation operands obstacle =>
      operation.name ++ operandList operands ++ ": " ++
        obstacle.message
  | zeroFactor => "float division by zero"
  | wholeTooGreat => "int too large to convert to float"
  | countTooGreat =>
      "cannot fit 'int' into an index-sized integer"
  | textTooLong => "repeated string is too long"
  | joinedTooLong => "strings are too large to concat"
  | replacedTooLong => "replace string is too long"
  | noMemory => ""
  | spreadOfInfinity =>
      "'float' object has no attribute 'numerator'"
  | spreadTooGreat =>
      "integer division result too large for a float"

/-
  The message under which a failure is recorded; a failure
  without one is recorded by the generic code.
-/
def recordedMessage
    (failure : Failure) :
    String :=
  let message := failure.message
  if message.isEmpty then genericCode else message

end Failure

end Spreadsheet
