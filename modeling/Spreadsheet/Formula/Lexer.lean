import Spreadsheet.Formula.Lexeme

/-
  Cutting a formula into lexemes.

  The kinds of lexemes are tried in a fixed order, and the
  first that matches wins; each takes a name, a number or a
  string as a whole.  Spaces, tabs and characters that start
  no lexeme are passed over, so every text has lexemes.

  Key definitions include:
    * `Spreadsheet.Lexeme.match?`
    * `Spreadsheet.Lexeme.scan`
    * `Spreadsheet.tokenize`
-/

------------------------------------------------------------
-- Names
------------------------------------------------------------

namespace Spreadsheet

namespace Lexeme

/-
  The rest of a text behind a word in either case.
-/
def afterWord? :
    (word text : List Char) → Option (List Char)
  | [], text => some text
  | _ :: _, [] => none
  | w :: word, c :: text =>
      if Text.sameLetter w c then
        afterWord? word text
      else
        none

/-
  A text does not go on with a part of a name; the letters
  that equal a part up to case count as such.
-/
def endsFoldedName :
    List Char → Bool
  | [] => true
  | c :: _ => !isNamePart (Text.fold c)

/- A text does not go on with a part of a name. -/
def endsName :
    List Char → Bool
  | [] => true
  | c :: _ => !isNamePart c

/- The length of a truth value at the front of a text. -/
def booleanLength?
    (text : List Char) :
    Option Nat :=
  let truth? (word : List Char) : Option Nat :=
    match afterWord? word text with
    | some rest =>
        if endsFoldedName rest then some word.length else none
    | none => none
  truth? "TRUE".toList <|> truth? "FALSE".toList

/-
  The length of letters and digits at the front of a text,
  at least one of each, and the text behind them.
-/
def labelLength?
    (text : List Char) :
    Option (Nat × List Char) :=
  let letters := text.takeWhile isLetter
  let behind := text.dropWhile isLetter
  let digits := behind.takeWhile Text.isAsciiDigit
  if letters.isEmpty || digits.isEmpty then
    none
  else
    some (letters.length + digits.length,
      behind.dropWhile Text.isAsciiDigit)

/-
  The length of a range at the front of a text: a label, a
  colon and any letters and digits.
-/
def rangeLength?
    (text : List Char) :
    Option Nat :=
  match labelLength? text with
  | some (length, ':' :: rest) =>
      some (length + 1 +
        (rest.takeWhile isLetterOrDigit).length)
  | _ => none

/- The length of the name of a function that is called. -/
def functionLength? :
    List Char → Option Nat
  | [] => none
  | c :: rest =>
      if isNameStart c &&
          (rest.dropWhile isFunctionPart).head? == some '(' then
        some (1 + (rest.takeWhile isFunctionPart).length)
      else
        none

/- The length of a label that is a whole name. -/
def cellLength?
    (text : List Char) :
    Option Nat :=
  match labelLength? text with
  | some (length, rest) =>
      if endsName rest then some length else none
  | none => none

/- The length of a name at the front of a text. -/
def wordLength? :
    List Char → Option Nat
  | [] => none
  | c :: rest =>
      if isNameStart c then
        some (1 + (rest.takeWhile isNamePart).length)
      else
        none

end Lexeme

end Spreadsheet

------------------------------------------------------------
-- Strings, Numbers And Symbols
------------------------------------------------------------

namespace Spreadsheet

namespace Lexeme

/-
  The length of a string: up to the next quote, or to the end
  of the text if there is none.
-/
def stringLength? :
    List Char → Option Nat
  | '"' :: rest =>
      let body := (rest.takeWhile (· ≠ '"')).length
      if body < rest.length then
        some (body + 2)
      else
        some (body + 1)
  | _ => none

/- A digit of ASCII or a point. -/
def isNumberPart
    (c : Char) :
    Bool :=
  Text.isAsciiDigit c || c = '.'

/- The length of a run of digits and points. -/
def numberLength?
    (text : List Char) :
    Option Nat :=
  let run := text.takeWhile isNumberPart
  if run.isEmpty then none else some run.length

/- The symbol at the front of a text; longer ones come first. -/
def symbol? :
    List Char → Option (Kind × Nat)
  | '<' :: '>' :: _ => some (.operator (.compare .ne), 2)
  | '<' :: '=' :: _ => some (.operator (.compare .le), 2)
  | '>' :: '=' :: _ => some (.operator (.compare .ge), 2)
  | '=' :: _ => some (.operator (.compare .eq), 1)
  | '<' :: _ => some (.operator (.compare .lt), 1)
  | '>' :: _ => some (.operator (.compare .gt), 1)
  | '+' :: _ => some (.operator .add, 1)
  | '-' :: _ => some (.operator .sub, 1)
  | '*' :: _ => some (.operator .mul, 1)
  | '/' :: _ => some (.operator .div, 1)
  | '^' :: _ => some (.operator .pow, 1)
  | '%' :: _ => some (.operator .mod, 1)
  | '&' :: _ => some (.operator .concat, 1)
  | '(' :: _ => some (.openParen, 1)
  | ')' :: _ => some (.closeParen, 1)
  | ',' :: _ => some (.comma, 1)
  | ';' :: _ => some (.comma, 1)
  | _ => none

end Lexeme

end Spreadsheet

------------------------------------------------------------
-- Scanning
------------------------------------------------------------

namespace Spreadsheet

namespace Lexeme

/- The kind and length of the lexeme at the front of a text. -/
def match?
    (text : List Char) :
    Option (Kind × Nat) :=
  (booleanLength? text).map (Kind.boolean, ·) <|>
  (rangeLength? text).map (Kind.range, ·) <|>
  (functionLength? text).map (Kind.function, ·) <|>
  (cellLength? text).map (Kind.cell, ·) <|>
  (wordLength? text).map (Kind.word, ·) <|>
  (stringLength? text).map (Kind.string, ·) <|>
  (numberLength? text).map (Kind.number, ·) <|>
  symbol? text

/-
  The lexemes of a text that starts at an offset; its first
  `skip` characters belong to the lexeme before it.
-/
def scanFrom
    (skip offset : Nat) :
    List Char → List Lexeme
  | [] => []
  | c :: rest =>
      match skip with
      | skip + 1 => scanFrom skip (offset + 1) rest
      | 0 =>
          match match? (c :: rest) with
          | some (kind, length) =>
              ⟨kind, (c :: rest).take length, offset⟩ ::
                scanFrom (length - 1) (offset + 1) rest
          | none => scanFrom 0 (offset + 1) rest

/- The lexemes of a text. -/
def scan
    (text : List Char) :
    List Lexeme :=
  scanFrom 0 0 text

end Lexeme

/- The tokens of the text of a formula. -/
def tokenize
    (text : String) :
    List Token :=
  (Lexeme.scan text.toList).map Lexeme.token

end Spreadsheet
