import Spreadsheet.Text.CaseTable

/-
  Letter case.

  Upper and lower case are the full mappings, in which one
  letter may become several.  A capital sigma becomes a final
  sigma when a cased letter stands before it and none stands
  after it, marks between them not counted.  Two characters
  are the same letter when their folds agree.

  Key definitions include:
    * `Spreadsheet.Text.upper`
    * `Spreadsheet.Text.lower`
    * `Spreadsheet.Text.fold`
    * `Spreadsheet.Text.sameLetter`
-/

------------------------------------------------------------
-- Upper Case
------------------------------------------------------------

namespace Spreadsheet

namespace Text

/- The image of a character in a table of runs, or itself. -/
def runImage
    (runs : List CaseRun)
    (c : Char) :
    Char :=
  match runs.findSome? fun run => run.image? c.toNat with
  | some code => Char.ofNat code
  | none => c

/- The upper-case form of one character. -/
def upperChar
    (c : Char) :
    List Char :=
  match upperExpansions.lookup c.toNat with
  | some codes => codes.map Char.ofNat
  | none => [runImage upperRuns c]

/- The upper-case form of a text. -/
def upper
    (text : List Char) :
    List Char :=
  text.flatMap upperChar

end Text

end Spreadsheet

------------------------------------------------------------
-- Lower Case
------------------------------------------------------------

namespace Spreadsheet

namespace Text

/- The capital I with a dot, `0x130`. -/
def dottedCapitalI : Char := Char.ofNat 0x130

/- The dot that the lower-case form of that letter keeps. -/
def dotAbove : Char := Char.ofNat 0x307

/- The capital sigma. -/
def capitalSigma : Char := Char.ofNat 0x3a3

/- The small sigma inside a word. -/
def smallSigma : Char := Char.ofNat 0x3c3

/- The small sigma at the end of a word. -/
def finalSigma : Char := Char.ofNat 0x3c2

/- A letter that has a case or is of one. -/
def isCased
    (c : Char) :
    Bool :=
  CodeRange.covers casedRanges c

/- A character that is no neighbour of a letter. -/
def isCaseIgnorable
    (c : Char) :
    Bool :=
  CodeRange.covers caseIgnorableRanges c

/- The nearest neighbour in a direction has a case. -/
def nextIsCased
    (side : List Char) :
    Bool :=
  match side.dropWhile isCaseIgnorable with
  | [] => false
  | c :: _ => isCased c

/-
  The lower-case form of one character, between the text
  before it, in reverse, and the text after it.
-/
def lowerChar
    (before : List Char)
    (c : Char)
    (after : List Char) :
    List Char :=
  if c = dottedCapitalI then
    ['i', dotAbove]
  else if c = capitalSigma then
    if nextIsCased before && !nextIsCased after then
      [finalSigma]
    else
      [smallSigma]
  else
    [runImage lowerRuns c]

/- The lower-case form of a text that follows another one. -/
def lowerAfter
    (before : List Char) :
    List Char → List Char
  | [] => []
  | c :: rest =>
      lowerChar before c rest ++ lowerAfter (c :: before) rest

/- The lower-case form of a text. -/
def lower
    (text : List Char) :
    List Char :=
  lowerAfter [] text

end Text

end Spreadsheet

------------------------------------------------------------
-- Letters Up To Case
------------------------------------------------------------

namespace Spreadsheet

namespace Text

/- The letter that stands for a character of either case. -/
def fold
    (c : Char) :
    Char :=
  if c = dottedCapitalI then
    'i'
  else
    let small := runImage lowerRuns c
    match foldMerges.lookup small.toNat with
    | some code => Char.ofNat code
    | none => small

/- Two characters are the same letter up to case. -/
def sameLetter
    (a b : Char) :
    Bool :=
  fold a == fold b

end Text

end Spreadsheet
