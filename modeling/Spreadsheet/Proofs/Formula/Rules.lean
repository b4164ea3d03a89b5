import Spreadsheet.Formula.Lexeme
import Spreadsheet.Proofs.Number.Leading

/-
  The rules for cutting a formula into pieces.

  A text is cut from its front, and at each place the first
  character tells which rule applies: blanks, strings, numbers
  and names are taken as long as they go on, symbols of two
  characters come before symbols of one, and any other
  character is passed over by itself.  What a name is depends
  on the name as a whole and on the text behind it.

  Key definitions include:
    * `Spreadsheet.Piece`
    * `Spreadsheet.Piece.name`
    * `Spreadsheet.Piece.cut`
    * `Spreadsheet.pieces`
    * `Spreadsheet.Piece.token?`
    * `Spreadsheet.Piece.lexemesFrom`

  Main results:
    * `Spreadsheet.Piece.written_append_cut`
    * `Spreadsheet.flatMap_written_pieces`
-/

------------------------------------------------------------
-- Pieces
------------------------------------------------------------

namespace Spreadsheet

/-
  A piece of the text of a formula.  It has the kind of a
  lexeme, or none where the text is passed over.
-/
structure Piece where
  kind : Option Lexeme.Kind
  written : List Char
deriving DecidableEq, Repr

namespace Piece

/- The characters that separate other pieces. -/
def isBlank
    (c : Char) :
    Bool :=
  c = ' ' || c = '\t'

/- The characters of numbers. -/
def isNumeric
    (c : Char) :
    Bool :=
  c.isDigit || c = '.'

/- The characters that a name starts with. -/
def startsName
    (c : Char) :
    Bool :=
  c.isAlpha || c = '_' || c = '$'

/- The characters that a name goes on with. -/
def continuesName
    (c : Char) :
    Bool :=
  startsName c || c.isDigit

/- The characters that the name of a call goes on with. -/
def continuesCall
    (c : Char) :
    Bool :=
  continuesName c || c = '.'

theorem continuesName_of_start
    {c : Char}
    (hStart : startsName c = true) :
    continuesName c = true := by
  rw [continuesName, hStart, Bool.true_or]

theorem continuesCall_of_name
    {c : Char}
    (hName : continuesName c = true) :
    continuesCall c = true := by
  rw [continuesCall, hName, Bool.true_or]

end Piece

end Spreadsheet

------------------------------------------------------------
-- Rules
------------------------------------------------------------

namespace Spreadsheet

namespace Piece

/- A run of characters, and the text behind it. -/
def run
    (kind : Option Lexeme.Kind)
    (part : Char → Bool)
    (text : List Char) :
    Piece × List Char :=
  (⟨kind, text.takeWhile part⟩, text.dropWhile part)

/-
  A string behind its first quote: up to the next quote, or to
  the end of the text if there is none.
-/
def quoted
    (text : List Char) :
    Piece × List Char :=
  let inside := text.takeWhile (· ≠ '"')
  match text.dropWhile (· ≠ '"') with
  | [] => (⟨some .string, '"' :: inside⟩, [])
  | quote :: rest =>
      (⟨some .string, '"' :: (inside ++ [quote])⟩, rest)

/- A name that consists of letters and, behind them, digits. -/
def isReference
    (name : List Char) :
    Bool :=
  let digits := name.dropWhile Char.isAlpha
  digits.length < name.length && !digits.isEmpty &&
    digits.all Char.isDigit

/-
  A name is a truth value, the first half of a range, the name
  of a function that is called, a reference, or a word.
-/
def name
    (text : List Char) :
    Piece × List Char :=
  let whole := text.takeWhile continuesName
  let behind := text.dropWhile continuesName
  if whole.map Char.toUpper = "TRUE".toList ∨
      whole.map Char.toUpper = "FALSE".toList then
    (⟨some .boolean, whole⟩, behind)
  else if isReference whole ∧ behind.head? = some ':' then
    let other := run none Char.isAlphanum behind.tail
    (⟨some .range, whole ++ ':' :: other.1.written⟩, other.2)
  else if (text.dropWhile continuesCall).head? = some '(' then
    run (some .function) continuesCall text
  else if isReference whole then
    (⟨some .cell, whole⟩, behind)
  else
    (⟨some .word, whole⟩, behind)

/- The symbols of two characters. -/
def pairKind? :
    (c next : Char) → Option Lexeme.Kind
  | '<', '>' => some (.operator (.compare .ne))
  | '<', '=' => some (.operator (.compare .le))
  | '>', '=' => some (.operator (.compare .ge))
  | _, _ => none

/- The symbols of one character. -/
def singleKind? :
    (c : Char) → Option Lexeme.Kind
  | '=' => some (.operator (.compare .eq))
  | '<' => some (.operator (.compare .lt))
  | '>' => some (.operator (.compare .gt))
  | '+' => some (.operator .add)
  | '-' => some (.operator .sub)
  | '*' => some (.operator .mul)
  | '/' => some (.operator .div)
  | '^' => some (.operator .pow)
  | '%' => some (.operator .mod)
  | '&' => some (.operator .concat)
  | '(' => some .openParen
  | ')' => some .closeParen
  | ',' => some .comma
  | ';' => some .comma
  | _ => none

/- A symbol, or a character that is passed over. -/
def symbol
    (c : Char)
    (rest : List Char) :
    Piece × List Char :=
  match rest with
  | [] => (⟨singleKind? c, [c]⟩, [])
  | next :: behind =>
      match pairKind? c next with
      | some kind => (⟨some kind, [c, next]⟩, behind)
      | none => (⟨singleKind? c, [c]⟩, rest)

/- The first piece of a text, and the text behind it. -/
def cut
    (c : Char)
    (rest : List Char) :
    Piece × List Char :=
  if isBlank c then
    run none isBlank (c :: rest)
  else if c = '"' then
    quoted rest
  else if isNumeric c then
    run (some .number) isNumeric (c :: rest)
  else if startsName c then
    name (c :: rest)
  else
    symbol c rest

end Piece

end Spreadsheet

------------------------------------------------------------
-- Nothing Is Lost
------------------------------------------------------------

namespace Spreadsheet

namespace Piece

/- A rule divides a text into a piece and what is behind it. -/
def Divides
    (text : List Char)
    (cut : Piece × List Char) : Prop :=
  cut.1.written ++ cut.2 = text ∧ cut.1.written ≠ []

theorem run_divides
    (kind : Option Lexeme.Kind)
    {part : Char → Bool}
    {c : Char}
    (hPart : part c = true)
    (rest : List Char) :
    Divides (c :: rest) (run kind part (c :: rest)) := by
  refine ⟨List.takeWhile_append_dropWhile, ?_⟩
  simp [run, List.takeWhile_cons_of_pos hPart]

theorem quoted_divides
    (rest : List Char) :
    Divides ('"' :: rest) (quoted rest) := by
  have hParts :
      rest.takeWhile (· ≠ '"') ++ rest.dropWhile (· ≠ '"') =
        rest :=
    List.takeWhile_append_dropWhile
  unfold quoted Divides
  split
  · rename_i hBehind
    rw [hBehind, List.append_nil] at hParts
    rw [List.append_nil, hParts]
    exact ⟨rfl, List.cons_ne_nil _ _⟩
  · rename_i quote behind hBehind
    rw [hBehind] at hParts
    rw [List.cons_append, List.append_assoc,
      List.singleton_append, hParts]
    exact ⟨rfl, List.cons_ne_nil _ _⟩

theorem name_divides
    {c : Char}
    (hStart : startsName c = true)
    (rest : List Char) :
    Divides (c :: rest) (name (c :: rest)) := by
  have hName := continuesName_of_start hStart
  have hCall := continuesCall_of_name hName
  have hParts := run_divides none hName rest
  unfold name
  dsimp only
  split
  · exact hParts
  · split
    · rename_i hRange
      rcases hParts with ⟨hAppend, hNonempty⟩
      simp only [run] at hAppend hNonempty
      cases hBehind :
          (c :: rest).dropWhile continuesName with
      | nil => simp [hBehind] at hRange
      | cons colon behind =>
          rw [hBehind] at hAppend hRange
          cases Option.some.inj hRange.2
          refine ⟨?_, by simp⟩
          rw [← hAppend, List.append_assoc, List.cons_append]
          congr 2
          exact List.takeWhile_append_dropWhile
    · split
      · exact run_divides _ hCall rest
      · split <;> exact hParts

theorem symbol_divides
    (c : Char)
    (rest : List Char) :
    Divides (c :: rest) (symbol c rest) := by
  unfold symbol Divides
  split
  · simp
  · split <;> simp

/- The rules divide every text that is not empty. -/
theorem cut_divides
    (c : Char)
    (rest : List Char) :
    Divides (c :: rest) (cut c rest) := by
  unfold cut
  split
  · rename_i hBlank
    exact run_divides none hBlank rest
  · split
    · rename_i hQuote
      rw [hQuote]
      exact quoted_divides rest
    · split
      · rename_i hNumeric
        exact run_divides _ hNumeric rest
      · split
        · rename_i hStart
          exact name_divides hStart rest
        · exact symbol_divides c rest

theorem length_cut_lt
    (c : Char)
    (rest : List Char) :
    (cut c rest).2.length < (c :: rest).length := by
  rcases cut_divides c rest with ⟨hAppend, hNonempty⟩
  rw [← hAppend, List.length_append]
  have hPositive := List.length_pos_iff.mpr hNonempty
  omega

end Piece

/- The pieces of a text, one behind the other. -/
def pieces :
    List Char → List Piece
  | [] => []
  | c :: rest =>
      (Piece.cut c rest).1 :: pieces (Piece.cut c rest).2
termination_by text => text.length
decreasing_by exact Piece.length_cut_lt c rest

/- Each character of a text is in exactly one piece. -/
theorem flatMap_written_pieces
    (text : List Char) :
    (pieces text).flatMap Piece.written = text := by
  fun_induction pieces text with
  | case1 => rfl
  | case2 c rest ih =>
      rw [List.flatMap_cons, ih]
      exact (Piece.cut_divides c rest).1

/- No piece is empty. -/
theorem written_ne_nil_of_mem_pieces
    {text : List Char}
    {piece : Piece}
    (hPiece : piece ∈ pieces text) :
    piece.written ≠ [] := by
  fun_induction pieces text with
  | case1 => simp at hPiece
  | case2 c rest ih =>
      rcases List.mem_cons.mp hPiece with rfl | hPiece
      · exact (Piece.cut_divides c rest).2
      · exact ih hPiece

end Spreadsheet

------------------------------------------------------------
-- What Is Passed Over
------------------------------------------------------------

namespace Spreadsheet

namespace Piece

variable {c : Char}
variable {rest : List Char}

theorem kind_quoted
    (rest : List Char) :
    (quoted rest).1.kind = some .string := by
  unfold quoted
  dsimp only
  split <;> rfl

/- Every name has a kind. -/
theorem kind_name_ne_none
    (text : List Char) :
    (name text).1.kind ≠ none := by
  unfold name
  dsimp only
  split
  · exact Option.some_ne_none _
  · split
    · exact Option.some_ne_none _
    · split
      · exact Option.some_ne_none _
      · split <;> exact Option.some_ne_none _

/- What is no symbol by itself starts no pair. -/
theorem symbol_of_singleKind
    (hNone : singleKind? c = none)
    (rest : List Char) :
    symbol c rest = (⟨none, [c]⟩, rest) := by
  cases rest with
  | nil => rw [symbol, hNone]
  | cons next behind =>
      have hPair : pairKind? c next = none := by
        unfold pairKind?
        split
        case h_4 => rfl
        all_goals cases hNone
      rw [symbol, hPair, hNone]

theorem singleKind_of_symbol
    (hPassed : (symbol c rest).1.kind = none) :
    singleKind? c = none := by
  unfold symbol at hPassed
  split at hPassed
  · exact hPassed
  · split at hPassed
    · cases hPassed
    · exact hPassed

/-
  A piece that is passed over consists of characters that
  are passed over wherever they stand.
-/
theorem kind_eq_none_of_mem_written
    (hPassed : (cut c rest).1.kind = none)
    {other : Char}
    (hOther : other ∈ (cut c rest).1.written)
    (behind : List Char) :
    (cut other behind).1.kind = none := by
  unfold cut at hPassed hOther
  split at hPassed
  · rename_i hBlank
    rw [if_pos hBlank] at hOther
    have hSame : isBlank other = true :=
      List.mem_takeWhile_imp hOther
    rw [cut, if_pos hSame]
    rfl
  · rename_i hBlank
    rw [if_neg hBlank] at hOther
    split at hPassed
    · rw [kind_quoted] at hPassed
      cases hPassed
    · rename_i hQuote
      rw [if_neg hQuote] at hOther
      split at hPassed
      · cases hPassed
      · rename_i hNumeric
        rw [if_neg hNumeric] at hOther
        split at hPassed
        · exact absurd hPassed (kind_name_ne_none _)
        · rename_i hStart
          have hSingle := singleKind_of_symbol hPassed
          rw [if_neg hStart, symbol_of_singleKind hSingle,
            List.mem_singleton] at hOther
          rw [hOther, cut, if_neg hBlank, if_neg hQuote,
            if_neg hNumeric, if_neg hStart,
            symbol_of_singleKind hSingle]

end Piece

end Spreadsheet

------------------------------------------------------------
-- What Pieces Stand For
------------------------------------------------------------

namespace Spreadsheet

namespace Piece

/- A text with the letters of ASCII in upper case. -/
def inCapitals
    (text : List Char) :
    String :=
  String.ofList (text.map Char.toUpper)

/- The token of a piece of a kind. -/
def value
    (written : List Char) :
    Lexeme.Kind → Token
  | .boolean => .boolean (inCapitals written = "TRUE")
  | .range => .range (inCapitals written)
  | .function => .function (inCapitals written)
  | .cell => .cell (inCapitals written)
  | .word => .string (String.ofList written)
  | .string =>
      .string (String.ofList
        ((written.drop 1).takeWhile (· ≠ '"')))
  | .number =>
      .number (Number.longestDecimal? written written.length)
  | .operator _ => .operator (String.ofList written)
  | .openParen => .paren (String.ofList written)
  | .closeParen => .paren (String.ofList written)
  | .comma => .comma

/- The token of a piece that is not passed over. -/
def token?
    (piece : Piece) :
    Option Token :=
  piece.kind.map (value piece.written)

/- The lexemes among pieces that begin at an offset. -/
def lexemesFrom
    (offset : Nat) :
    List Piece → List Lexeme
  | [] => []
  | piece :: rest =>
      let behind :=
        lexemesFrom (offset + piece.written.length) rest
      match piece.kind with
      | some kind => ⟨kind, piece.written, offset⟩ :: behind
      | none => behind

end Piece

end Spreadsheet
