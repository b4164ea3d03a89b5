import Spreadsheet.Formula.Lexer
import Spreadsheet.Proofs.Formula.Rules
import Spreadsheet.Proofs.Text.Digits
import Spreadsheet.Proofs.Text.Fold

/-
  Scans follow the rules.

  A scan tries the kinds of lexemes one after the other, each
  with a pattern of its own that may look beyond its end.  The
  first that matches is the one that the rules give to a name
  as a whole, or to what stands where no name does.  So what a
  scan finds are the pieces of the text that have a kind.

  Key definitions include:
    * `Spreadsheet.Lexeme.IsLabel`
    * `Spreadsheet.Lexeme.measure`

  Main results:
    * `Spreadsheet.Lexeme.afterWord?_iff`
    * `Spreadsheet.Lexeme.labelLength?_iff`
    * `Spreadsheet.Lexeme.match?_eq`
    * `Spreadsheet.Lexeme.scanFrom_eq`
-/

------------------------------------------------------------
-- Characters
------------------------------------------------------------

namespace Spreadsheet

namespace Lexeme

open Piece (startsName continuesName continuesCall isNumeric)

@[simp] theorem isLetter_eq :
    isLetter = Char.isAlpha := by
  funext c
  rw [Bool.eq_iff_iff]
  simp [isLetter, Char.isAlpha, Char.isUpper, Char.isLower,
    UInt32.le_iff_toNat_le]

@[simp] theorem isLetterOrDigit_eq :
    isLetterOrDigit = Char.isAlphanum := by
  funext c
  simp [isLetterOrDigit, Char.isAlphanum]

@[simp] theorem isNameStart_eq :
    isNameStart = startsName := by
  funext c
  simp [isNameStart, startsName]

@[simp] theorem isNamePart_eq :
    isNamePart = continuesName := by
  funext c
  simp [isNamePart, continuesName]

@[simp] theorem isFunctionPart_eq :
    isFunctionPart = continuesCall := by
  funext c
  simp [isFunctionPart, continuesCall]

@[simp] theorem isNumberPart_eq :
    isNumberPart = isNumeric := by
  funext c
  simp [isNumberPart, isNumeric]

/- All characters of names are characters of ASCII. -/
theorem toNat_lt_of_continuesCall
    {c : Char}
    (hCall : continuesCall c = true) :
    c.toNat < 128 := by
  simp [continuesCall, continuesName, startsName,
    Char.isAlpha, Char.isUpper, Char.isLower, Char.isDigit,
    UInt32.le_iff_toNat_le] at hCall
  rcases hCall with
    (((hLetter | rfl) | rfl) | hDigit) | rfl
  all_goals first | omega | decide

/- To fold a plain character does not make it part of names. -/
theorem continuesName_fold
    {c : Char}
    (hPlain : c ∉ Text.foldingLetters) :
    continuesName (Text.fold c) = continuesName c := by
  by_cases hAscii : c.toNat < 128
  · rw [Text.fold_of_ascii hAscii]
    exact Text.forall_ascii
      (motive := fun c =>
        continuesName c.toLower = continuesName c)
      (by decide +kernel) hAscii
  · have hOutside :
        ∀ {other : Char}, ¬other.toNat < 128 →
          continuesName other = false := by
      intro other hOther
      rw [← Bool.not_eq_true]
      intro hName
      exact hOther (toNat_lt_of_continuesCall
        (Piece.continuesCall_of_name hName))
    have hFold : ¬(Text.fold c).toNat < 128 := by
      rw [Text.toNat_fold_lt_iff]
      exact not_or.mpr ⟨hAscii, hPlain⟩
    rw [hOutside hAscii, hOutside hFold]

/- The letters of the truth values, in upper case. -/
def truthLetters : List Char :=
  "TRUEFALSE".toList

theorem toNat_lt_of_mem_truthLetters :
    ∀ letter ∈ truthLetters, letter.toNat < 128 :=
  List.all_iff_forall_prop.mp (by decide)

/- A plain character equals a letter if its capital does. -/
theorem sameLetter_eq
    {letter c : Char}
    (hLetter : letter ∈ truthLetters)
    (hPlain : c ∉ Text.foldingLetters) :
    Text.sameLetter letter c = (c.toUpper == letter) := by
  have hBound := toNat_lt_of_mem_truthLetters letter hLetter
  unfold Text.sameLetter
  by_cases hAscii : c.toNat < 128
  · rw [Text.fold_of_ascii hBound, Text.fold_of_ascii hAscii]
    have hEvery :=
      Text.forall_ascii
        (motive := fun c => truthLetters.all fun letter =>
          (letter.toLower == c.toLower) =
            (c.toUpper == letter))
        (by decide +kernel) hAscii
    exact List.all_iff_forall_prop.mp hEvery letter hLetter
  · have hFold : ¬(Text.fold c).toNat < 128 := by
      rw [Text.toNat_fold_lt_iff]
      exact not_or.mpr ⟨hAscii, hPlain⟩
    have hUpper : c.toUpper = c :=
      Text.toUpper_of_beyond (Nat.not_lt.mp hAscii)
    have hFolds : Text.fold letter ≠ Text.fold c := by
      intro hSame
      rw [← hSame, Text.toNat_fold_lt_iff] at hFold
      exact hFold (Or.inl hBound)
    have hDiffers : c ≠ letter := by
      rintro rfl
      exact hAscii hBound
    rw [hUpper, beq_false_of_ne hFolds,
      beq_false_of_ne hDiffers]

end Lexeme

end Spreadsheet

------------------------------------------------------------
-- Truth Values
------------------------------------------------------------

namespace Spreadsheet

namespace Lexeme

open Piece (startsName continuesName continuesCall isNumeric)

/- Names may start with the letters of the truth values. -/
theorem startsName_of_toUpper_mem
    {c : Char}
    (hLetter : c.toUpper ∈ truthLetters) :
    startsName c = true := by
  have hAscii : c.toNat < 128 := by
    rw [← Nat.not_le]
    intro hBeyond
    rw [Text.toUpper_of_beyond hBeyond] at hLetter
    exact Nat.not_lt.mpr hBeyond
      (toNat_lt_of_mem_truthLetters c hLetter)
  exact Text.forall_ascii
    (motive := fun c => c.toUpper ∈ truthLetters →
      startsName c = true)
    (by decide +kernel) hAscii hLetter

/-
  A name is a word in either case if the text goes on with
  the word and then not with a part of a name.
-/
theorem afterWord?_iff
    {word text : List Char}
    (hWord : ∀ letter ∈ word, letter ∈ truthLetters)
    (hPlain : Text.IsPlain text) :
    (∃ rest, afterWord? word text = some rest ∧
      endsFoldedName rest = true) ↔
      (text.takeWhile continuesName).map Char.toUpper =
        word := by
  induction word generalizing text with
  | nil =>
      cases text with
      | nil => simp [afterWord?, endsFoldedName]
      | cons c rest =>
          simp [afterWord?, endsFoldedName,
            continuesName_fold hPlain.head,
            List.takeWhile_cons]
  | cons letter word ih =>
      cases text with
      | nil => simp [afterWord?]
      | cons c rest =>
          have hLetter := hWord letter List.mem_cons_self
          have hSame := sameLetter_eq hLetter hPlain.head
          have hRest :=
            ih (fun other hOther =>
              hWord other (List.mem_cons_of_mem _ hOther))
              hPlain.tail
          rw [afterWord?, hSame]
          by_cases hCapital : c.toUpper = letter
          · have hName : continuesName c = true :=
              Piece.continuesName_of_start
                (startsName_of_toUpper_mem
                  (hCapital ▸ hLetter))
            simp [hCapital, hName, hRest]
          · have hNot : ∀ tail,
                c.toUpper :: tail ≠ letter :: word :=
              fun tail hBoth =>
                hCapital (List.cons.inj hBoth).1
            cases hName : continuesName c <;>
              simp [hCapital, hName]

/- The letters of both words are those of the truth values. -/
theorem mem_truthLetters_of_mem_word :
    ∀ word ∈ ["TRUE".toList, "FALSE".toList],
      ∀ letter ∈ word, letter ∈ truthLetters := by
  intro word hWord
  rw [List.mem_cons, List.mem_singleton] at hWord
  rcases hWord with rfl | rfl
  · exact List.all_iff_forall_prop.mp (by decide)
  · exact List.all_iff_forall_prop.mp (by decide)

/- The length of a word that is a name in front of a text. -/
def truthLength?
    (word text : List Char) :
    Option Nat :=
  (afterWord? word text).bind fun rest =>
    if endsFoldedName rest then some word.length else none

theorem booleanLength?_eq_truthLength?
    (text : List Char) :
    booleanLength? text =
      (truthLength? "TRUE".toList text <|>
        truthLength? "FALSE".toList text) := by
  unfold booleanLength? truthLength?
  dsimp only
  cases afterWord? "TRUE".toList text <;>
    cases afterWord? "FALSE".toList text <;> rfl

theorem truthLength?_eq
    {word text : List Char}
    (hWord : word ∈ ["TRUE".toList, "FALSE".toList])
    (hPlain : Text.IsPlain text) :
    truthLength? word text =
      let whole := text.takeWhile continuesName
      if whole.map Char.toUpper = word then
        some whole.length
      else
        none := by
  have hIff :=
    afterWord?_iff
      (mem_truthLetters_of_mem_word word hWord) hPlain
  dsimp only
  unfold truthLength?
  by_cases hName :
      (text.takeWhile continuesName).map Char.toUpper = word
  · rcases hIff.mpr hName with ⟨rest, hRest, hEnds⟩
    have hLength := congrArg List.length hName
    rw [List.length_map] at hLength
    simp only [hRest, Option.bind_some, hEnds, if_true, hName,
      hLength]
  · rw [if_neg hName]
    cases hRest : afterWord? word text with
    | none => rfl
    | some rest =>
        have hGoesOn : ¬endsFoldedName rest = true :=
          fun hEnds => hName (hIff.mp ⟨rest, hRest, hEnds⟩)
        exact if_neg hGoesOn

/- A truth value is a name that is one of the two words. -/
theorem booleanLength?_eq
    {text : List Char}
    (hPlain : Text.IsPlain text) :
    booleanLength? text =
      let whole := text.takeWhile continuesName
      if whole.map Char.toUpper = "TRUE".toList ∨
          whole.map Char.toUpper = "FALSE".toList then
        some whole.length
      else
        none := by
  rw [booleanLength?_eq_truthLength?,
    truthLength?_eq List.mem_cons_self hPlain,
    truthLength?_eq
      (List.mem_cons_of_mem _ List.mem_cons_self) hPlain]
  dsimp only
  by_cases hIsTrue :
      (text.takeWhile continuesName).map Char.toUpper =
        "TRUE".toList
  · rw [if_pos hIsTrue, if_pos (Or.inl hIsTrue)]
    rfl
  · simp only [hIsTrue, false_or]
    rfl

/- No truth value starts with what no name starts with. -/
theorem booleanLength?_of_not_name
    {c : Char}
    (hPlain : c ∉ Text.foldingLetters)
    (hStart : startsName c = false)
    (rest : List Char) :
    booleanLength? (c :: rest) = none := by
  have hOther :
      ∀ letter ∈ truthLetters,
        Text.sameLetter letter c = false := by
    intro letter hLetter
    rw [sameLetter_eq hLetter hPlain, beq_eq_false_iff_ne]
    intro hCapital
    rw [startsName_of_toUpper_mem (hCapital ▸ hLetter)]
      at hStart
    cases hStart
  have hT := hOther 'T' (by decide)
  have hF := hOther 'F' (by decide)
  simp [booleanLength?, afterWord?, hT, hF]

end Lexeme

end Spreadsheet

------------------------------------------------------------
-- Names
------------------------------------------------------------

namespace Spreadsheet

namespace Lexeme

open Piece (startsName continuesName continuesCall isNumeric
  isReference)

/- No digit is a letter. -/
theorem isAlpha_of_isDigit
    {c : Char}
    (hDigit : c.isDigit = true) :
    c.isAlpha = false := by
  simp [Char.isDigit, UInt32.le_iff_toNat_le] at hDigit
  simp [Char.isAlpha, Char.isUpper, Char.isLower,
    UInt32.le_iff_toNat_le]
  omega

/- The front of a text is letters and, behind them, digits. -/
structure IsLabel
    (letters digits : List Char) : Prop where
  letters_ne_nil : letters ≠ []
  digits_ne_nil : digits ≠ []
  isAlpha : ∀ c ∈ letters, c.isAlpha = true
  isDigit : ∀ c ∈ digits, c.isDigit = true

namespace IsLabel

variable {letters digits : List Char}

/- The letters of a label end where its digits begin. -/
theorem letters_stop
    (hLabel : IsLabel letters digits)
    (rest : List Char) :
    ∀ c ∈ (digits ++ rest).head?, c.isAlpha = false := by
  intro c hHead
  rcases List.exists_cons_of_ne_nil hLabel.digits_ne_nil with
    ⟨digit, others, rfl⟩
  cases Option.mem_some.mp hHead
  exact isAlpha_of_isDigit
    (hLabel.isDigit c List.mem_cons_self)

/- All characters of a label continue a name. -/
theorem continuesName
    (hLabel : IsLabel letters digits) :
    ∀ c ∈ letters ++ digits,
      Piece.continuesName c = true := by
  intro c hMem
  rcases List.mem_append.mp hMem with hLetter | hDigit
  · simp [Piece.continuesName, startsName,
      hLabel.isAlpha c hLetter]
  · simp [Piece.continuesName, hLabel.isDigit c hDigit]

end IsLabel

theorem isReference_iff
    (whole : List Char) :
    isReference whole = true ↔
      ∃ letters digits, IsLabel letters digits ∧
        whole = letters ++ digits := by
  simp only [isReference, Bool.and_eq_true, decide_eq_true_eq,
    Bool.not_eq_true', List.isEmpty_eq_false_iff,
    List.all_eq_true]
  have hParts :
      whole.takeWhile Char.isAlpha ++
        whole.dropWhile Char.isAlpha = whole :=
    List.takeWhile_append_dropWhile
  constructor
  · rintro ⟨⟨hShorter, hDigits⟩, hAll⟩
    refine ⟨whole.takeWhile Char.isAlpha,
      whole.dropWhile Char.isAlpha, ⟨?_, hDigits, ?_, hAll⟩,
      hParts.symm⟩
    · intro hNone
      rw [hNone, List.nil_append] at hParts
      rw [hParts] at hShorter
      exact Nat.lt_irrefl _ hShorter
    · exact fun c hLetter => List.mem_takeWhile_imp hLetter
  · rintro ⟨letters, digits, hLabel, rfl⟩
    have hStop := hLabel.letters_stop []
    rw [List.append_nil] at hStop
    have hPositive :=
      List.length_pos_iff.mpr hLabel.letters_ne_nil
    rw [Text.dropWhile_append_stop hLabel.isAlpha hStop,
      List.length_append]
    exact ⟨⟨by omega, hLabel.digits_ne_nil⟩, hLabel.isDigit⟩

theorem labelLength?_eq_some_iff
    (text : List Char)
    (length : Nat)
    (rest : List Char) :
    labelLength? text = some (length, rest) ↔
      ∃ letters digits, IsLabel letters digits ∧
        text = letters ++ (digits ++ rest) ∧
        length = (letters ++ digits).length ∧
        ∀ c ∈ rest.head?, c.isDigit = false := by
  simp only [labelLength?, isLetter_eq,
    Text.isAsciiDigit_eq]
  constructor
  · intro hSome
    split at hSome
    · cases hSome
    · rename_i hNonempty
      simp only [Bool.or_eq_true, List.isEmpty_iff,
        not_or] at hNonempty
      rcases Prod.ext_iff.mp (Option.some.inj hSome) with
        ⟨hLength, hRest⟩
      simp only at hLength hRest
      refine ⟨_, _, ⟨hNonempty.1, hNonempty.2, ?_, ?_⟩,
        ?_, ?_, ?_⟩
      · exact fun c hLetter => List.mem_takeWhile_imp hLetter
      · exact fun c hDigit => List.mem_takeWhile_imp hDigit
      · rw [← hRest, List.takeWhile_append_dropWhile,
          List.takeWhile_append_dropWhile]
      · rw [← hLength, List.length_append]
      · rw [← hRest]
        exact Text.stop_of_head_dropWhile Char.isDigit _
  · rintro ⟨letters, digits, hLabel, rfl, rfl, hStop⟩
    have hLetters := hLabel.letters_stop rest
    rw [Text.takeWhile_append_stop hLabel.isAlpha hLetters,
      Text.dropWhile_append_stop hLabel.isAlpha hLetters,
      Text.takeWhile_append_stop hLabel.isDigit hStop,
      Text.dropWhile_append_stop hLabel.isDigit hStop]
    simp [hLabel.letters_ne_nil, hLabel.digits_ne_nil]

theorem endsName_iff
    (text : List Char) :
    endsName text = true ↔
      ∀ c ∈ text.head?, continuesName c = false := by
  cases text <;> simp [endsName]

/-
  A label that is a whole name is a name that consists of
  letters and digits.
-/
theorem labelLength?_iff
    (text : List Char)
    (length : Nat)
    (rest : List Char) :
    (labelLength? text = some (length, rest) ∧
      endsName rest = true) ↔
      isReference (text.takeWhile continuesName) = true ∧
        length = (text.takeWhile continuesName).length ∧
        rest = text.dropWhile continuesName := by
  rw [labelLength?_eq_some_iff, isReference_iff, endsName_iff]
  constructor
  · rintro ⟨⟨letters, digits, hLabel, rfl, rfl, -⟩, hEnds⟩
    rw [← List.append_assoc,
      Text.takeWhile_append_stop hLabel.continuesName hEnds,
      Text.dropWhile_append_stop hLabel.continuesName hEnds]
    exact ⟨⟨letters, digits, hLabel, rfl⟩, rfl, rfl⟩
  · rintro ⟨⟨letters, digits, hLabel, hWhole⟩, rfl, rfl⟩
    have hEnds :=
      Text.stop_of_head_dropWhile continuesName text
    refine ⟨⟨letters, digits, hLabel, ?_, ?_, ?_⟩, hEnds⟩
    · rw [← List.append_assoc, ← hWhole,
        List.takeWhile_append_dropWhile]
    · rw [hWhole]
    · intro c hHead
      have hNot := hEnds c hHead
      rw [continuesName, Bool.or_eq_false_iff] at hNot
      exact hNot.2

/- A cell is a name that consists of letters and digits. -/
theorem cellLength?_eq
    (text : List Char) :
    cellLength? text =
      let whole := text.takeWhile continuesName
      if isReference whole then
        some whole.length
      else
        none := by
  have hLabel := labelLength?_iff text
  unfold cellLength?
  dsimp only
  by_cases hWhole :
      isReference (text.takeWhile continuesName) = true
  · rcases (hLabel _ _).mpr ⟨hWhole, rfl, rfl⟩ with
      ⟨hSome, hEnds⟩
    rw [hSome, if_pos hWhole]
    exact if_pos hEnds
  · rw [if_neg hWhole]
    cases hSome : labelLength? text with
    | none => rfl
    | some found =>
        have hGoesOn : ¬endsName found.2 = true :=
          fun hEnds =>
            hWhole ((hLabel _ _).mp ⟨hSome, hEnds⟩).1
        exact if_neg hGoesOn

/-
  A range is such a name with a colon behind it, and the
  letters and digits behind the colon.
-/
theorem rangeLength?_eq
    (text : List Char) :
    rangeLength? text =
      let whole := text.takeWhile continuesName
      let behind := text.dropWhile continuesName
      if isReference whole ∧ behind.head? = some ':' then
        some (whole.length + 1 +
          (behind.tail.takeWhile Char.isAlphanum).length)
      else
        none := by
  have hLabel := labelLength?_iff text
  unfold rangeLength?
  dsimp only
  split
  · rename_i length rest hSome
    rcases (hLabel _ _).mp ⟨hSome, rfl⟩ with
      ⟨hWhole, hLength, hRest⟩
    rw [← hRest, if_pos ⟨hWhole, rfl⟩, hLength,
      isLetterOrDigit_eq, List.tail_cons]
  · rename_i hNone
    rw [if_neg]
    rintro ⟨hWhole, hColon⟩
    rcases (hLabel _ _).mpr ⟨hWhole, rfl, rfl⟩ with
      ⟨hSome, -⟩
    rcases List.head?_eq_some_iff.mp hColon with ⟨rest, hRest⟩
    rw [hRest] at hSome
    exact hNone _ _ hSome

variable {c : Char}

/- A call is a name, with points in it, before a bracket. -/
theorem functionLength?_eq
    (hStart : startsName c = true)
    (rest : List Char) :
    functionLength? (c :: rest) =
      if ((c :: rest).dropWhile continuesCall).head? =
          some '(' then
        some ((c :: rest).takeWhile continuesCall).length
      else
        none := by
  have hCall :=
    Piece.continuesCall_of_name
      (Piece.continuesName_of_start hStart)
  simp [functionLength?, hStart, hCall, Nat.add_comm]

theorem wordLength?_eq
    (hStart : startsName c = true)
    (rest : List Char) :
    wordLength? (c :: rest) =
      some ((c :: rest).takeWhile continuesName).length := by
  have hName := Piece.continuesName_of_start hStart
  simp [wordLength?, hStart, hName, Nat.add_comm]

/- The kind of a piece and its length, where it has a kind. -/
def measure
    (piece : Piece) :
    Option (Kind × Nat) :=
  piece.kind.map (·, piece.written.length)

/- A name is matched as the rules say. -/
theorem match?_name
    (hStart : startsName c = true)
    {rest : List Char}
    (hPlain : Text.IsPlain (c :: rest)) :
    match? (c :: rest) =
      measure (Piece.name (c :: rest)).1 := by
  rw [match?, booleanLength?_eq hPlain, rangeLength?_eq,
    functionLength?_eq hStart, cellLength?_eq,
    wordLength?_eq hStart]
  unfold Piece.name
  dsimp only
  split
  · rfl
  · split
    · simp only [measure, Piece.run, Option.map_some,
        List.length_append, List.length_cons,
        Option.map_none, Nat.add_assoc, Nat.add_comm 1]
      rfl
    · split
      · rfl
      · split <;> rfl

end Lexeme

end Spreadsheet

------------------------------------------------------------
-- Strings, Numbers And Symbols
------------------------------------------------------------

namespace Spreadsheet

namespace Lexeme

open Piece (startsName continuesName continuesCall isNumeric
  isBlank)

variable {c : Char}

/- What starts no name is matched by none of the names. -/
theorem match?_of_not_name
    (hPlain : c ∉ Text.foldingLetters)
    (hStart : startsName c = false)
    (rest : List Char) :
    match? (c :: rest) =
      ((stringLength? (c :: rest)).map (Kind.string, ·) <|>
      (numberLength? (c :: rest)).map (Kind.number, ·) <|>
      symbol? (c :: rest)) := by
  have hLetter : c.isAlpha = false := by
    simp only [startsName, Bool.or_eq_false_iff] at hStart
    exact hStart.1.1
  have hLabel : labelLength? (c :: rest) = none := by
    simp [labelLength?, hLetter]
  simp [match?, booleanLength?_of_not_name hPlain hStart,
    rangeLength?, cellLength?, functionLength?, wordLength?,
    hLabel, hStart]

theorem numberLength?_eq
    (c : Char)
    (rest : List Char) :
    numberLength? (c :: rest) =
      if isNumeric c then
        some ((c :: rest).takeWhile isNumeric).length
      else
        none := by
  cases hNumeric : isNumeric c <;>
    simp [numberLength?, hNumeric]

/- A string is as long as its piece. -/
theorem match?_quoted
    (rest : List Char) :
    (stringLength? ('"' :: rest)).map (Kind.string, ·) =
      measure (Piece.quoted rest).1 := by
  have hParts :
      (rest.takeWhile (· ≠ '"')).length +
        (rest.dropWhile (· ≠ '"')).length = rest.length := by
    rw [← List.length_append,
      List.takeWhile_append_dropWhile]
  have hLength :
      stringLength? ('"' :: rest) =
        if (rest.takeWhile (· ≠ '"')).length < rest.length then
          some ((rest.takeWhile (· ≠ '"')).length + 2)
        else
          some ((rest.takeWhile (· ≠ '"')).length + 1) :=
    rfl
  rw [hLength, Piece.quoted]
  cases hBehind : rest.dropWhile (· ≠ '"') with
  | nil =>
      rw [hBehind, List.length_nil] at hParts
      rw [if_neg (by omega)]
      rfl
  | cons quote behind =>
      rw [hBehind, List.length_cons] at hParts
      rw [if_pos (by omega)]
      simp [measure]

/- No other symbols start with what is no symbol. -/
theorem symbol?_eq_none
    {c : Char}
    (hNone : Piece.singleKind? c = none)
    (rest : List Char) :
    symbol? (c :: rest) = none := by
  unfold symbol?
  split
  case h_18 => rfl
  all_goals
    rename_i hText
    cases hText
    cases hNone

/- Where no pair stands, the symbols are single ones. -/
theorem symbol?_single
    {c : Char}
    {rest : List Char}
    (hPair : ∀ next ∈ rest.head?,
      Piece.pairKind? c next = none) :
    symbol? (c :: rest) =
      (Piece.singleKind? c).map (·, 1) := by
  cases hSingle : Piece.singleKind? c with
  | none => exact symbol?_eq_none hSingle rest
  | some kind =>
      unfold Piece.singleKind? at hSingle
      split at hSingle
      case h_2 | h_3 =>
        -- A pair begins with these two, so look one further.
        cases hSingle
        cases rest with
        | nil => rfl
        | cons next behind =>
            have hNext := hPair next rfl
            by_cases hGreater : next = '>'
            · subst hGreater
              first | rfl | cases hNext
            · by_cases hEqual : next = '='
              · subst hEqual
                cases hNext
              · simp [symbol?, hGreater, hEqual]
      case h_15 => cases hSingle
      all_goals
        cases hSingle
        rfl

/- Symbols are matched as the rules say. -/
theorem symbol?_eq
    (c : Char)
    (rest : List Char) :
    symbol? (c :: rest) =
      measure (Piece.symbol c rest).1 := by
  cases rest with
  | nil => exact symbol?_single (by simp)
  | cons next behind =>
      unfold Piece.symbol
      dsimp only
      cases hPair : Piece.pairKind? c next with
      | none =>
          apply symbol?_single
          rintro _ ⟨⟩
          exact hPair
      | some kind =>
          unfold Piece.pairKind? at hPair
          split at hPair
          case h_4 => cases hPair
          all_goals
            cases hPair
            rfl

theorem stringLength?_eq_none
    {c : Char}
    (hQuote : c ≠ '"')
    (rest : List Char) :
    stringLength? (c :: rest) = none := by
  unfold stringLength?
  split
  · rename_i hText
    exact absurd (List.cons.inj hText).1 hQuote
  · rfl

/- No name starts with a digit or a point. -/
theorem startsName_of_isNumeric
    {c : Char}
    (hNumeric : isNumeric c = true) :
    startsName c = false := by
  rw [isNumeric, Bool.or_eq_true, decide_eq_true_eq]
    at hNumeric
  rcases hNumeric with hDigit | rfl
  · rw [startsName, isAlpha_of_isDigit hDigit]
    have hLow : c ≠ '_' := by
      rintro rfl
      cases hDigit
    have hDollar : c ≠ '$' := by
      rintro rfl
      cases hDigit
    simp [hLow, hDollar]
  · decide

/- The front of a text is matched as the rules say. -/
theorem match?_eq
    {c : Char}
    {rest : List Char}
    (hPlain : Text.IsPlain (c :: rest)) :
    match? (c :: rest) = measure (Piece.cut c rest).1 := by
  unfold Piece.cut
  split
  · rename_i hBlank
    rw [isBlank, Bool.or_eq_true, decide_eq_true_eq,
      decide_eq_true_eq] at hBlank
    rcases hBlank with rfl | rfl <;>
      exact match?_of_not_name hPlain.head (by decide) rest
  · split
    · rename_i hQuote
      subst hQuote
      rw [match?_of_not_name hPlain.head (by decide) rest,
        match?_quoted]
      unfold Piece.quoted
      dsimp only
      split <;> rfl
    · rename_i hQuote
      split
      · rename_i hNumeric
        rw [match?_of_not_name hPlain.head
            (startsName_of_isNumeric hNumeric) rest,
          stringLength?_eq_none hQuote, numberLength?_eq,
          if_pos hNumeric]
        rfl
      · rename_i hNumeric
        split
        · rename_i hStart
          exact match?_name hStart hPlain
        · rename_i hStart
          rw [match?_of_not_name hPlain.head
              (Bool.eq_false_iff.mpr hStart) rest,
            stringLength?_eq_none hQuote, numberLength?_eq,
            if_neg hNumeric, symbol?_eq]
          rfl

end Lexeme

end Spreadsheet

------------------------------------------------------------
-- Scans
------------------------------------------------------------

namespace Spreadsheet

namespace Lexeme

/- The equations of a scan, one for each way it goes on. -/
theorem scanFrom_nil
    (skip offset : Nat) :
    scanFrom skip offset [] = [] :=
  rfl

theorem scanFrom_succ
    (skip offset : Nat)
    (c : Char)
    (rest : List Char) :
    scanFrom (skip + 1) offset (c :: rest) =
      scanFrom skip (offset + 1) rest :=
  rfl

theorem scanFrom_zero
    (offset : Nat)
    (c : Char)
    (rest : List Char) :
    scanFrom 0 offset (c :: rest) =
      match match? (c :: rest) with
      | some (kind, length) =>
          ⟨kind, (c :: rest).take length, offset⟩ ::
            scanFrom (length - 1) (offset + 1) rest
      | none => scanFrom 0 (offset + 1) rest :=
  (rfl)

/- Characters of the lexeme before are not looked at. -/
theorem scanFrom_skip
    (skip offset : Nat)
    (text : List Char) :
    scanFrom skip offset text =
      scanFrom 0 (offset + skip) (text.drop skip) := by
  induction text generalizing skip offset with
  | nil => rw [List.drop_nil, scanFrom_nil, scanFrom_nil]
  | cons c rest ih =>
      cases skip with
      | zero => rfl
      | succ skip =>
          rw [scanFrom_succ, ih, List.drop_succ_cons]
          congr 1
          omega

/- Characters that no lexeme begins with are passed over. -/
theorem scanFrom_passed
    {passed rest : List Char}
    (hPassed : ∀ c ∈ passed, ∀ behind,
      (Piece.cut c behind).1.kind = none)
    (hPlain : Text.IsPlain (passed ++ rest))
    (offset : Nat) :
    scanFrom 0 offset (passed ++ rest) =
      scanFrom 0 (offset + passed.length) rest := by
  induction passed generalizing offset with
  | nil => rfl
  | cons c passed ih =>
      rw [List.cons_append] at hPlain
      have hNone :
          match? (c :: (passed ++ rest)) = none := by
        rw [match?_eq hPlain, measure,
          hPassed c List.mem_cons_self]
        rfl
      have hOthers :
          ∀ other ∈ passed, ∀ behind,
            (Piece.cut other behind).1.kind = none :=
        fun other hOther =>
          hPassed other (List.mem_cons_of_mem c hOther)
      rw [List.cons_append, scanFrom_zero]
      simp only [hNone]
      rw [ih hOthers hPlain.tail, List.length_cons]
      congr 1
      omega

/- A lexeme is taken as a whole. -/
theorem scanFrom_taken
    {written rest : List Char}
    {kind : Kind}
    (hNonempty : written ≠ [])
    (hMatch : match? (written ++ rest) =
      some (kind, written.length))
    (offset : Nat) :
    scanFrom 0 offset (written ++ rest) =
      ⟨kind, written, offset⟩ ::
        scanFrom 0 (offset + written.length) rest := by
  rcases List.exists_cons_of_ne_nil hNonempty with
    ⟨c, tail, rfl⟩
  rw [List.cons_append] at hMatch ⊢
  rw [scanFrom_zero]
  simp only [hMatch]
  rw [scanFrom_skip, List.length_cons, Nat.add_sub_cancel,
    List.drop_left, List.take_succ_cons, List.take_left]
  congr 2
  omega

/- A scan finds the lexemes among the pieces of a text. -/
theorem scanFrom_eq
    {text : List Char}
    (hPlain : Text.IsPlain text)
    (offset : Nat) :
    scanFrom 0 offset text =
      Piece.lexemesFrom offset (pieces text) := by
  fun_induction pieces text generalizing offset with
  | case1 => rfl
  | case2 c rest ih =>
      rcases Piece.cut_divides c rest with
        ⟨hAppend, hNonempty⟩
      have hMatch := match?_eq hPlain
      rw [← hAppend] at hPlain hMatch
      have hBehind := ih hPlain.of_append_right
        (offset + (Piece.cut c rest).1.written.length)
      rw [Piece.lexemesFrom, ← hBehind]
      conv => lhs; rw [← hAppend]
      cases hKind : (Piece.cut c rest).1.kind with
      | none =>
          exact scanFrom_passed
            (fun other =>
              Piece.kind_eq_none_of_mem_written hKind)
            hPlain offset
      | some kind =>
          rw [measure, hKind] at hMatch
          exact scanFrom_taken hNonempty hMatch offset

end Lexeme

end Spreadsheet
