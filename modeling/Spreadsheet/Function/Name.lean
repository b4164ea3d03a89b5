/-
  Names of built-in functions.

  A function has an English name and may have French names.
  Names are matched in upper case.

  Key definitions include:
    * `Spreadsheet.Function`
    * `Spreadsheet.Function.name`
    * `Spreadsheet.Function.all`
    * `Spreadsheet.Function.aliases`
    * `Spreadsheet.Function.canonical`
    * `Spreadsheet.Function.named?`
    * `Spreadsheet.Function.isFlat`
    * `Spreadsheet.Function.limit?`
-/

------------------------------------------------------------
-- Functions
------------------------------------------------------------

namespace Spreadsheet

/- The built-in functions. -/
inductive Function where
  | abs
  | and
  | average
  | averageIf
  | ceiling
  | concatenate
  | count
  | countA
  | countIf
  | day
  | exp
  | find
  | floor
  | ifElse
  | ifError
  | int
  | left
  | len
  | ln
  | log
  | lower
  | max
  | median
  | mid
  | min
  | mod
  | month
  | not
  | now
  | or
  | pi
  | power
  | product
  | rand
  | randBetween
  | rept
  | right
  | round
  | roundDown
  | roundUp
  | search
  | sign
  | sqrt
  | stdev
  | substitute
  | sum
  | sumIf
  | text
  | today
  | trim
  | upper
  | value
  | vlookup
  | year
deriving DecidableEq, Repr

namespace Function

/- The English name of a function. -/
def name :
    Function → String
  | abs => "ABS"
  | and => "AND"
  | average => "AVERAGE"
  | averageIf => "AVERAGEIF"
  | ceiling => "CEILING"
  | concatenate => "CONCATENATE"
  | count => "COUNT"
  | countA => "COUNTA"
  | countIf => "COUNTIF"
  | day => "DAY"
  | exp => "EXP"
  | find => "FIND"
  | floor => "FLOOR"
  | ifElse => "IF"
  | ifError => "IFERROR"
  | int => "INT"
  | left => "LEFT"
  | len => "LEN"
  | ln => "LN"
  | log => "LOG"
  | lower => "LOWER"
  | max => "MAX"
  | median => "MEDIAN"
  | mid => "MID"
  | min => "MIN"
  | mod => "MOD"
  | month => "MONTH"
  | not => "NOT"
  | now => "NOW"
  | or => "OR"
  | pi => "PI"
  | power => "POWER"
  | product => "PRODUCT"
  | rand => "RAND"
  | randBetween => "RANDBETWEEN"
  | rept => "REPT"
  | right => "RIGHT"
  | round => "ROUND"
  | roundDown => "ROUNDDOWN"
  | roundUp => "ROUNDUP"
  | search => "SEARCH"
  | sign => "SIGN"
  | sqrt => "SQRT"
  | stdev => "STDEV"
  | substitute => "SUBSTITUTE"
  | sum => "SUM"
  | sumIf => "SUMIF"
  | text => "TEXT"
  | today => "TODAY"
  | trim => "TRIM"
  | upper => "UPPER"
  | value => "VALUE"
  | vlookup => "VLOOKUP"
  | year => "YEAR"

/- Every function, in the order of the English names. -/
def all : List Function :=
  [
    abs, and, average, averageIf, ceiling, concatenate,
    count, countA, countIf, day, exp, find, floor, ifElse,
    ifError, int, left, len, ln, log, lower, max, median,
    mid, min, mod, month, not, now, or, pi, power, product,
    rand, randBetween, rept, right, round, roundDown,
    roundUp, search, sign, sqrt, stdev, substitute, sum,
    sumIf, text, today, trim, upper, value, vlookup, year
  ]

end Function

end Spreadsheet

------------------------------------------------------------
-- Other Names
------------------------------------------------------------

namespace Spreadsheet

namespace Function

/- The French names, in order, and what they stand for. -/
def aliases : List (String × Function) :=
  [
    ("ANNEE", year),
    ("ARRONDI", round),
    ("AUJOURDHUI", today),
    ("CHERCHE", search),
    ("CNUM", value),
    ("CONCATENER", concatenate),
    ("DROITE", right),
    ("ENT", int),
    ("ET", and),
    ("GAUCHE", left),
    ("JOUR", day),
    ("MAINTENANT", now),
    ("MAJUSCULE", upper),
    ("MEDIANE", median),
    ("MINUSCULE", lower),
    ("MOIS", month),
    ("MOYENNE", average),
    ("MOYENNE.SI", averageIf),
    ("NB.SI", countIf),
    ("NBCAR", len),
    ("NON", not),
    ("OU", or),
    ("PLAFOND", ceiling),
    ("PLANCHER", floor),
    ("PRODUIT", product),
    ("PUISSANCE", power),
    ("RACINE", sqrt),
    ("RECHERCHEV", vlookup),
    ("SI", ifElse),
    ("SOMME.SI", sumIf),
    ("STXT", mid),
    ("SUBSTITUE", substitute),
    ("SUPPRESPACE", trim),
    ("TEXTE", text),
    ("TROUVE", find)
  ]

/- The French names of a function, in order. -/
def otherNames
    (function : Function) :
    List String :=
  (aliases.filter fun entry => entry.2 = function).map (·.1)

/- The English name that an upper-case name stands for. -/
def canonical
    (name : String) :
    String :=
  match aliases.lookup name with
  | some function => function.name
  | none => name

/- The function that an upper-case name stands for. -/
def named?
    (name : String) :
    Option Function :=
  all.find? fun function => function.name = canonical name

/-
  Functions that take the values of an area as arguments of
  their own.
-/
def isFlat :
    Function → Bool
  | and => true
  | average => true
  | concatenate => true
  | count => true
  | countA => true
  | max => true
  | median => true
  | min => true
  | or => true
  | product => true
  | stdev => true
  | sum => true
  | _ => false

/-
  The greatest number of arguments of a function; functions
  that collect values have none, and a look-up never gets so
  far as to count its arguments.
-/
def limit? :
    Function → Option Nat
  | abs => some 1
  | and => none
  | average => none
  | averageIf => some 3
  | ceiling => some 2
  | concatenate => none
  | count => none
  | countA => none
  | countIf => some 2
  | day => some 1
  | exp => some 1
  | find => some 3
  | floor => some 2
  | ifElse => some 3
  | ifError => some 2
  | int => some 1
  | left => some 2
  | len => some 1
  | ln => some 1
  | log => some 2
  | lower => some 1
  | max => none
  | median => none
  | mid => some 3
  | min => none
  | mod => some 2
  | month => some 1
  | not => some 1
  | now => some 0
  | or => none
  | pi => some 0
  | power => some 2
  | product => none
  | rand => some 0
  | randBetween => some 2
  | rept => some 2
  | right => some 2
  | round => some 2
  | roundDown => some 2
  | roundUp => some 2
  | search => some 3
  | sign => some 1
  | sqrt => some 1
  | stdev => none
  | substitute => some 3
  | sum => none
  | sumIf => some 3
  | text => some 2
  | today => some 0
  | trim => some 1
  | upper => some 1
  | value => some 1
  | vlookup => none
  | year => some 1

end Function

end Spreadsheet
