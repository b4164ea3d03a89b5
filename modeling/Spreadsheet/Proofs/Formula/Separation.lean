import Spreadsheet.Proofs.Formula.Scanning

/-
  Blanks between lexemes.

  Some lexemes are taken only if the text behind them goes on
  in a certain way.  A blank goes on like the end of the text:
  no lexeme but a string holds one, and none looks for one.
  So a text that does not end inside a string has the same
  lexemes in front of a blank as it has alone, and what stands
  behind the blank is cut as if it stood alone.

  Key definitions include:
    * `Spreadsheet.Lexeme.IsOpen`
    * `Spreadsheet.EndsInString`

  Main results:
    * `Spreadsheet.Lexeme.match?_append_barrier`
    * `Spreadsheet.Lexeme.match?_le`
    * `Spreadsheet.Lexeme.scanFrom_append_barrier`
    * `Spreadsheet.tokenize_separated`
-/

------------------------------------------------------------
-- Strings Without An End
------------------------------------------------------------

namespace Spreadsheet

/- A string without a quote at its end. -/
def Lexeme.IsOpen
    (lexeme : Lexeme) : Prop :=
  lexeme.kind = .string ∧ '"' ∉ lexeme.written.drop 1

instance
    (lexeme : Lexeme) :
    Decidable lexeme.IsOpen :=
  inferInstanceAs (Decidable (_ ∧ _))

/- A text ends inside a string that has no end. -/
def EndsInString
    (text : List Char) : Prop :=
  ∃ lexeme ∈ Lexeme.scan text, lexeme.IsOpen

instance
    (text : List Char) :
    Decidable (EndsInString text) :=
  inferInstanceAs (Decidable (∃ lexeme ∈ _, _))

end Spreadsheet

------------------------------------------------------------
-- Names In Front Of A Barrier
------------------------------------------------------------

namespace Spreadsheet

namespace Lexeme

open Piece (isBlank)

variable {barrier : Char}
variable {text rest : List Char}

/- No lexeme but a string holds a blank or a quote. -/
def IsBarrier
    (c : Char) : Prop :=
  isBlank c = true ∨ c = '"'

theorem IsBarrier.cases
    (hBarrier : IsBarrier barrier) :
    barrier = ' ' ∨ barrier = '\t' ∨ barrier = '"' := by
  simpa [IsBarrier, isBlank, or_assoc] using hBarrier

/- No barrier is a letter of a truth value. -/
theorem sameLetter_barrier
    (hBarrier : IsBarrier barrier) :
    ∀ letter ∈ truthLetters,
      Text.sameLetter letter barrier = false := by
  rcases hBarrier.cases with rfl | rfl | rfl
  · exact List.all_iff_forall_prop.mp (by decide +kernel)
  · exact List.all_iff_forall_prop.mp (by decide +kernel)
  · exact List.all_iff_forall_prop.mp (by decide +kernel)

theorem afterWord?_append_barrier
    (hBarrier : IsBarrier barrier)
    {word : List Char}
    (hWord : ∀ letter ∈ word, letter ∈ truthLetters) :
    afterWord? word (text ++ barrier :: rest) =
      (afterWord? word text).map (· ++ barrier :: rest) := by
  induction word generalizing text with
  | nil => rfl
  | cons letter word ih =>
      rw [List.forall_mem_cons] at hWord
      cases text with
      | nil =>
          have hOther := sameLetter_barrier hBarrier letter hWord.1
          simp [afterWord?, hOther]
      | cons c text =>
          rw [List.cons_append, afterWord?, afterWord?,
            ih hWord.2]
          split <;> rfl

theorem endsFoldedName_append_barrier
    (hBarrier : IsBarrier barrier) :
    endsFoldedName (text ++ barrier :: rest) =
      endsFoldedName text := by
  cases text with
  | cons c text => rfl
  | nil =>
      rcases hBarrier.cases with rfl | rfl | rfl
      · exact (by decide +kernel :
          (!isNamePart (Text.fold ' ')) = true)
      · exact (by decide +kernel :
          (!isNamePart (Text.fold '\t')) = true)
      · exact (by decide +kernel :
          (!isNamePart (Text.fold '"')) = true)

theorem truthLength?_append_barrier
    (hBarrier : IsBarrier barrier)
    {word : List Char}
    (hWord : word ∈ ["TRUE".toList, "FALSE".toList]) :
    truthLength? word (text ++ barrier :: rest) =
      truthLength? word text := by
  unfold truthLength?
  rw [afterWord?_append_barrier hBarrier
    (mem_truthLetters_of_mem_word word hWord)]
  cases afterWord? word text with
  | none => rfl
  | some behind =>
      simp only [Option.map_some, Option.bind_some,
        endsFoldedName_append_barrier hBarrier]

theorem booleanLength?_append_barrier
    (hBarrier : IsBarrier barrier) :
    booleanLength? (text ++ barrier :: rest) =
      booleanLength? text := by
  rw [booleanLength?_eq_truthLength?,
    booleanLength?_eq_truthLength?,
    truthLength?_append_barrier hBarrier List.mem_cons_self,
    truthLength?_append_barrier hBarrier
      (List.mem_cons_of_mem _ List.mem_cons_self)]

theorem labelLength?_append_barrier
    (hBarrier : IsBarrier barrier) :
    labelLength? (text ++ barrier :: rest) =
      (labelLength? text).map fun found =>
        (found.1, found.2 ++ barrier :: rest) := by
  have hLetter : isLetter barrier = false := by
    rcases hBarrier.cases with rfl | rfl | rfl <;> decide
  have hDigit : Text.isAsciiDigit barrier = false := by
    rcases hBarrier.cases with rfl | rfl | rfl <;> decide
  unfold labelLength?
  simp only [Text.takeWhile_append_other hLetter,
    Text.dropWhile_append_other hLetter,
    Text.takeWhile_append_other hDigit,
    Text.dropWhile_append_other hDigit]
  split <;> rfl

theorem rangeLength?_append_barrier
    (hBarrier : IsBarrier barrier) :
    rangeLength? (text ++ barrier :: rest) =
      rangeLength? text := by
  have hPart : isLetterOrDigit barrier = false := by
    rcases hBarrier.cases with rfl | rfl | rfl <;> decide
  unfold rangeLength?
  rw [labelLength?_append_barrier hBarrier]
  rcases labelLength? text with _ | ⟨length, _ | ⟨c, behind⟩⟩
  · rfl
  · rcases hBarrier.cases with rfl | rfl | rfl <;> rfl
  · by_cases hColon : c = ':'
    · subst hColon
      simp only [Option.map_some, List.cons_append,
        Text.takeWhile_append_other hPart]
    · simp [hColon]

theorem functionLength?_append_barrier
    (hBarrier : IsBarrier barrier)
    (c : Char) :
    functionLength? (c :: text ++ barrier :: rest) =
      functionLength? (c :: text) := by
  have hPart : isFunctionPart barrier = false := by
    rcases hBarrier.cases with rfl | rfl | rfl <;> decide
  have hOpens :
      ((text.dropWhile isFunctionPart ++
          barrier :: rest).head? == some '(') =
        ((text.dropWhile isFunctionPart).head? ==
          some '(') := by
    cases text.dropWhile isFunctionPart with
    | cons d behind => rfl
    | nil => rcases hBarrier.cases with rfl | rfl | rfl <;> rfl
  simp only [List.cons_append, functionLength?,
    Text.takeWhile_append_other hPart,
    Text.dropWhile_append_other hPart, hOpens]

theorem cellLength?_append_barrier
    (hBarrier : IsBarrier barrier) :
    cellLength? (text ++ barrier :: rest) =
      cellLength? text := by
  have hPart : isNamePart barrier = false := by
    rcases hBarrier.cases with rfl | rfl | rfl <;> decide
  unfold cellLength?
  rw [labelLength?_append_barrier hBarrier]
  rcases labelLength? text with _ | ⟨length, _ | ⟨c, behind⟩⟩
  · rfl
  · simp only [Option.map_some, List.nil_append, endsName,
      hPart, Bool.not_false]
  · rfl

theorem wordLength?_append_barrier
    (hBarrier : IsBarrier barrier)
    (c : Char) :
    wordLength? (c :: text ++ barrier :: rest) =
      wordLength? (c :: text) := by
  have hPart : isNamePart barrier = false := by
    rcases hBarrier.cases with rfl | rfl | rfl <;> decide
  simp only [List.cons_append, wordLength?,
    Text.takeWhile_append_other hPart]

end Lexeme

end Spreadsheet

------------------------------------------------------------
-- Strings, Numbers And Symbols In Front Of A Barrier
------------------------------------------------------------

namespace Spreadsheet

namespace Lexeme

open Piece (isBlank)

variable {barrier blank c : Char}
variable {text rest : List Char}

/- A string with an end is not changed by what follows. -/
theorem stringLength?_append
    (hClosed : c = '"' → '"' ∈ text) :
    stringLength? (c :: text ++ rest) =
      stringLength? (c :: text) := by
  by_cases hQuote : c = '"'
  · have hInside :
        (text.takeWhile (· ≠ '"')).length < text.length := by
      refine Nat.lt_of_le_of_ne
        (List.takeWhile_prefix _).length_le fun hWhole => ?_
      have hAll :=
        List.takeWhile_eq_self_iff.mp
          ((List.takeWhile_prefix _).eq_of_length hWhole)
      exact of_decide_eq_true (hAll '"' (hClosed hQuote)) rfl
    have hSame :
        (text ++ rest).takeWhile (· ≠ '"') =
          text.takeWhile (· ≠ '"') := by
      rw [List.takeWhile_append, if_neg hInside.ne]
    subst hQuote
    simp only [List.cons_append, stringLength?, hSame,
      List.length_append, if_pos hInside,
      if_pos (Nat.lt_add_right _ hInside)]
  · rw [List.cons_append, stringLength?_eq_none hQuote,
      stringLength?_eq_none hQuote]

theorem numberLength?_append_barrier
    (hBarrier : IsBarrier barrier) :
    numberLength? (text ++ barrier :: rest) =
      numberLength? text := by
  have hPart : isNumberPart barrier = false := by
    rcases hBarrier.cases with rfl | rfl | rfl <;> decide
  simp only [numberLength?,
    Text.takeWhile_append_other hPart]

/- No symbol of two characters ends with a barrier. -/
theorem symbol?_append_barrier
    (hBarrier : IsBarrier barrier) :
    symbol? (c :: text ++ barrier :: rest) =
      symbol? (c :: text) := by
  cases text with
  | nil =>
      have hPair :
          ∀ next ∈ (barrier :: rest).head?,
            Piece.pairKind? c next = none := by
        rintro _ ⟨rfl⟩
        unfold Piece.pairKind?
        rcases hBarrier.cases with rfl | rfl | rfl <;>
          split <;> first | rfl | contradiction
      rw [List.cons_append, List.nil_append,
        symbol?_single hPair, symbol?_single (by simp)]
  | cons next text =>
      rw [List.cons_append, List.cons_append, symbol?_eq,
        symbol?_eq, Piece.symbol, Piece.symbol]
      cases Piece.pairKind? c next <;> rfl

/-
  The front of a text is matched as if a barrier behind it were
  its end, unless it is a string without an end.
-/
theorem match?_append_barrier
    (hBarrier : IsBarrier barrier)
    (hClosed : c = '"' → '"' ∈ text) :
    match? (c :: text ++ barrier :: rest) =
      match? (c :: text) := by
  unfold match?
  rw [booleanLength?_append_barrier hBarrier,
    rangeLength?_append_barrier hBarrier,
    functionLength?_append_barrier hBarrier,
    cellLength?_append_barrier hBarrier,
    wordLength?_append_barrier hBarrier,
    stringLength?_append hClosed,
    numberLength?_append_barrier hBarrier,
    symbol?_append_barrier hBarrier]

/- Nothing is matched at a blank. -/
theorem match?_blank
    (hBlank : isBlank blank = true)
    (rest : List Char) :
    match? (blank :: rest) = none := by
  rw [isBlank, Bool.or_eq_true, decide_eq_true_eq,
    decide_eq_true_eq] at hBlank
  rcases hBlank with rfl | rfl
  · rw [match?_of_not_name (by decide) (by decide)]
    rfl
  · rw [match?_of_not_name (by decide) (by decide)]
    rfl

end Lexeme

end Spreadsheet

------------------------------------------------------------
-- How Long Lexemes Are
------------------------------------------------------------

namespace Spreadsheet

namespace Lexeme

variable {c : Char}
variable {text rest : List Char}
variable {kind : Kind}
variable {length : Nat}

theorem length_of_afterWord?
    {word : List Char}
    (hWord : afterWord? word text = some rest) :
    text.length = word.length + rest.length := by
  induction word generalizing text with
  | nil =>
      cases hWord
      rw [List.length_nil, Nat.zero_add]
  | cons letter word ih =>
      cases text with
      | nil => cases hWord
      | cons c text =>
          rw [afterWord?, Option.ite_none_right_eq_some]
            at hWord
          rw [List.length_cons, List.length_cons, ih hWord.2]
          omega

theorem truthLength?_le
    {word : List Char}
    (hLength : truthLength? word text = some length) :
    length ≤ text.length := by
  rcases Option.bind_eq_some_iff.mp hLength with
    ⟨behind, hWord, hEnds⟩
  rw [Option.ite_none_right_eq_some] at hEnds
  cases hEnds.2
  rw [length_of_afterWord? hWord]
  exact Nat.le_add_right _ _

theorem length_of_labelLength?
    (hLabel : labelLength? text = some (length, rest)) :
    length + rest.length = text.length := by
  rcases (labelLength?_eq_some_iff _ _ _).mp hLabel with
    ⟨letters, digits, -, rfl, rfl, -⟩
  simp only [List.length_append]
  omega

theorem rangeLength?_le
    (hLength : rangeLength? text = some length) :
    length ≤ text.length := by
  unfold rangeLength? at hLength
  split at hLength
  · rename_i front behind hLabel
    have hParts := length_of_labelLength? hLabel
    have hOther :=
      (List.takeWhile_prefix
        (l := behind) isLetterOrDigit).length_le
    rw [List.length_cons] at hParts
    cases hLength
    omega
  · cases hLength

theorem cellLength?_le
    (hLength : cellLength? text = some length) :
    length ≤ text.length := by
  unfold cellLength? at hLength
  split at hLength
  · rename_i front behind hLabel
    have hParts := length_of_labelLength? hLabel
    rw [Option.ite_none_right_eq_some] at hLength
    cases hLength.2
    omega
  · cases hLength

/- A first character and the ones that go on with it. -/
theorem one_add_takeWhile_le
    (part : Char → Bool) :
    1 + (text.takeWhile part).length ≤
      (c :: text).length := by
  have hFront :=
    (List.takeWhile_prefix (l := text) part).length_le
  rw [List.length_cons]
  omega

/- A piece is not longer than the text that it divides. -/
theorem le_of_measure
    {cut : Piece × List Char}
    (hDivides : Piece.Divides text cut)
    (hMeasure : measure cut.1 = some (kind, length)) :
    length ≤ text.length := by
  rcases Option.map_eq_some_iff.mp hMeasure with
    ⟨_, -, hBoth⟩
  cases hBoth
  rw [← hDivides.1, List.length_append]
  exact Nat.le_add_right _ _

/- No lexeme is longer than the text it is matched in. -/
theorem match?_le
    (hMatch : match? (c :: text) = some (kind, length)) :
    length ≤ (c :: text).length := by
  simp only [match?, Option.orElse_eq_orElse,
    Option.orElse_eq_or, Option.or_eq_some_iff,
    Option.map_eq_some_iff, Prod.mk.injEq] at hMatch
  rcases hMatch with
    ⟨_, hBoolean, -, rfl⟩ | ⟨-, ⟨_, hRange, -, rfl⟩ | ⟨-,
    ⟨_, hFunction, -, rfl⟩ | ⟨-, ⟨_, hCell, -, rfl⟩ | ⟨-,
    ⟨_, hWord, -, rfl⟩ | ⟨-, ⟨count, hString, -, rfl⟩ | ⟨-,
    ⟨_, hNumber, -, rfl⟩ | ⟨-, hSymbol⟩⟩⟩⟩⟩⟩⟩
  · rw [booleanLength?_eq_truthLength?,
      Option.orElse_eq_orElse, Option.orElse_eq_or,
      Option.or_eq_some_iff] at hBoolean
    rcases hBoolean with hTrue | ⟨-, hFalse⟩
    · exact truthLength?_le hTrue
    · exact truthLength?_le hFalse
  · exact rangeLength?_le hRange
  · rw [functionLength?, Option.ite_none_right_eq_some]
      at hFunction
    cases hFunction.2
    exact one_add_takeWhile_le isFunctionPart
  · exact cellLength?_le hCell
  · rw [wordLength?, Option.ite_none_right_eq_some] at hWord
    cases hWord.2
    exact one_add_takeWhile_le isNamePart
  · by_cases hQuote : c = '"'
    · subst hQuote
      have hMeasure :
          measure (Piece.quoted text).1 =
            some (.string, count) := by
        rw [← match?_quoted, hString]
        rfl
      exact le_of_measure (Piece.quoted_divides text) hMeasure
    · rw [stringLength?_eq_none hQuote] at hString
      cases hString
  · rw [numberLength?, Option.ite_none_left_eq_some]
      at hNumber
    cases hNumber.2
    exact (List.takeWhile_prefix isNumberPart).length_le
  · rw [symbol?_eq] at hSymbol
    exact le_of_measure (Piece.symbol_divides c text) hSymbol

end Lexeme

end Spreadsheet

------------------------------------------------------------
-- Scans In Front Of A Barrier
------------------------------------------------------------

namespace Spreadsheet

namespace Lexeme

open Piece (isBlank)

variable {barrier c : Char}
variable {text rest : List Char}

/- At a quote a string is matched. -/
theorem match?_quote
    (rest : List Char) :
    match? ('"' :: rest) = measure (Piece.quoted rest).1 := by
  rw [match?_of_not_name (by decide) (by decide), match?_quoted]
  unfold Piece.quoted
  dsimp only
  split <;> rfl

/- Behind a quote without another one all is its string. -/
theorem scanFrom_open
    (hNone : '"' ∉ text)
    (offset : Nat) :
    scanFrom 0 offset ('"' :: text) =
      [⟨.string, '"' :: text, offset⟩] := by
  have hInside : ∀ c ∈ text, decide (c ≠ '"') = true :=
    fun c hMember =>
      decide_eq_true fun hSame => hNone (hSame ▸ hMember)
  have hMatch :
      match? (('"' :: text) ++ []) =
        some (.string, ('"' :: text).length) := by
    rw [List.append_nil, match?_quote, Piece.quoted,
      List.takeWhile_eq_self_iff.mpr hInside,
      List.dropWhile_eq_nil_iff.mpr hInside]
    rfl
  have hTaken :=
    scanFrom_taken (List.cons_ne_nil _ _) hMatch offset
  rwa [List.append_nil] at hTaken

/- Behind the next quote a scan goes on afresh. -/
theorem scanFrom_closed
    {inside : List Char}
    (hNone : '"' ∉ inside)
    (offset : Nat) :
    scanFrom 0 offset ('"' :: inside ++ '"' :: rest) =
      ⟨.string, '"' :: inside ++ ['"'], offset⟩ ::
        scanFrom 0
          (offset + ('"' :: inside ++ ['"']).length) rest := by
  have hInside : ∀ c ∈ inside, decide (c ≠ '"') = true :=
    fun c hMember =>
      decide_eq_true fun hSame => hNone (hSame ▸ hMember)
  have hText :
      '"' :: inside ++ '"' :: rest =
        ('"' :: inside ++ ['"']) ++ rest := by
    simp
  have hMatch :
      match? (('"' :: inside ++ ['"']) ++ rest) =
        some (.string, ('"' :: inside ++ ['"']).length) := by
    have hStop :
        ∀ c ∈ ('"' :: rest).head?, decide (c ≠ '"') = false := by
      rintro _ ⟨rfl⟩
      rfl
    rw [← hText, List.cons_append, match?_quote, Piece.quoted,
      Text.takeWhile_append_stop hInside hStop,
      Text.dropWhile_append_stop hInside hStop]
    rfl
  rw [hText]
  exact scanFrom_taken (by simp) hMatch offset

/- A quote without another one behind it opens a string. -/
theorem closed_of_scanFrom
    {offset : Nat}
    (hClosed :
      ∀ lexeme ∈ scanFrom 0 offset (c :: text),
        ¬ lexeme.IsOpen) :
    c = '"' → '"' ∈ text := by
  rintro rfl
  by_contra hNone
  rw [scanFrom_open hNone, List.forall_mem_singleton] at hClosed
  exact hClosed ⟨rfl, hNone⟩

/-
  A scan of a text without an open string finds the same in
  front of a barrier, and it goes on at the barrier afresh.
-/
theorem scanFrom_append_barrier
    (hBarrier : IsBarrier barrier)
    {skip offset : Nat}
    (hSkip : skip ≤ text.length)
    (hClosed :
      ∀ lexeme ∈ scanFrom skip offset text,
        ¬ lexeme.IsOpen) :
    scanFrom skip offset (text ++ barrier :: rest) =
      scanFrom skip offset text ++
        scanFrom 0 (offset + text.length) (barrier :: rest) := by
  -- Along the text, as it is scanned one by one.
  induction text generalizing skip offset with
  | nil =>
      have hNone : skip = 0 := Nat.le_zero.mp hSkip
      rw [hNone]
      rfl
  | cons c text ih =>
      have hOffset :
          offset + 1 + text.length =
            offset + (c :: text).length := by
        rw [List.length_cons]
        omega
      rw [← hOffset]
      cases skip with
      | succ skip =>
          rw [scanFrom_succ] at hClosed
          rw [List.cons_append, scanFrom_succ, scanFrom_succ]
          exact ih (Nat.le_of_succ_le_succ hSkip) hClosed
      | zero =>
          have hSame :
              match? (c :: text ++ barrier :: rest) =
                match? (c :: text) :=
            match?_append_barrier hBarrier
              (closed_of_scanFrom hClosed)
          rw [scanFrom_zero] at hClosed
          rw [List.cons_append] at hSame ⊢
          rw [scanFrom_zero, scanFrom_zero, hSame]
          cases hMatch : match? (c :: text) with
          | none =>
              simp only [hMatch] at hClosed ⊢
              exact ih (Nat.zero_le _) hClosed
          | some found =>
              rcases found with ⟨kind, length⟩
              have hLength := match?_le hMatch
              simp only [hMatch, List.forall_mem_cons]
                at hClosed ⊢
              rw [← List.cons_append,
                List.take_append_of_le_length hLength,
                List.cons_append,
                ih (Nat.sub_le_of_le_add hLength) hClosed.2]

/- Blanks are passed over. -/
theorem scanFrom_blanks
    {blanks : List Char}
    (hBlanks : ∀ c ∈ blanks, isBlank c = true)
    (offset : Nat) :
    scanFrom 0 offset (blanks ++ rest) =
      scanFrom 0 (offset + blanks.length) rest := by
  induction blanks generalizing offset with
  | nil => rfl
  | cons blank blanks ih =>
      rw [List.forall_mem_cons] at hBlanks
      rw [List.cons_append, scanFrom_zero]
      simp only [match?_blank hBlanks.1]
      rw [ih hBlanks.2, List.length_cons]
      congr 1
      omega

/- Tokens do not tell where their lexemes begin. -/
theorem map_token_scanFrom
    (text : List Char)
    (skip offset other : Nat) :
    (scanFrom skip offset text).map token =
      (scanFrom skip other text).map token := by
  induction text generalizing skip offset other with
  | nil => rfl
  | cons c text ih =>
      cases skip with
      | succ skip => exact ih _ _ _
      | zero =>
          rw [scanFrom_zero, scanFrom_zero]
          split
          · rw [List.map_cons, List.map_cons, ih _ _ (other + 1)]
            rfl
          · exact ih _ _ _

end Lexeme

/-
  The tokens of two texts with blanks between them are those
  of the first one and then those of the second one, unless
  the first one ends inside a string.
-/
theorem tokenize_separated
    (front blanks back : String)
    (hSome : blanks ≠ "")
    (hBlanks : ∀ c ∈ blanks.toList, c = ' ' ∨ c = '\t')
    (hClosed : ¬ EndsInString front.toList) :
    tokenize (front ++ blanks ++ back) =
      tokenize front ++ tokenize back := by
  have hAll :
      ∀ c ∈ blanks.toList, Piece.isBlank c = true :=
    fun c hMember => by
      simpa [Piece.isBlank] using hBlanks c hMember
  have hFront :
      ∀ lexeme ∈ Lexeme.scanFrom 0 0 front.toList,
        ¬ lexeme.IsOpen :=
    fun lexeme hMember hOpen =>
      hClosed ⟨lexeme, hMember, hOpen⟩
  obtain ⟨blank, others, hCons⟩ :
      ∃ blank others, blanks.toList = blank :: others :=
    List.exists_cons_of_ne_nil
      (fun hNone => hSome (String.toList_eq_nil_iff.mp hNone))
  have hScan :
      Lexeme.scan (front ++ blanks ++ back).toList =
        Lexeme.scan front.toList ++
          Lexeme.scanFrom 0
            (0 + front.toList.length + blanks.toList.length)
            back.toList := by
    rw [← Lexeme.scanFrom_blanks hAll, String.toList_append,
      String.toList_append, List.append_assoc, hCons,
      List.cons_append]
    exact Lexeme.scanFrom_append_barrier
      (.inl (hAll blank (hCons ▸ List.mem_cons_self)))
      (Nat.zero_le _) hFront
  rw [tokenize, hScan, List.map_append,
    Lexeme.map_token_scanFrom back.toList 0 _ 0]
  rfl

/-
  A string with a blank and a bracket in it, a comparison and
  a range that blanks cut in two, and a name that is no
  function before a blank.
-/
theorem tokenize_separated_range :
    "\t " ≠ "" ∧
    (∀ c ∈ "\t ".toList, c = ' ' ∨ c = '\t') ∧
    ¬ EndsInString "\"a (\"<A1:".toList ∧
    tokenize ("\"a (\"<A1:" ++ "\t " ++ "=B2, SUM (1.5)") =
      [.string "a (", .operator "<", .range "A1:"] ++
        tokenize "=B2, SUM (1.5)" := by
  have hSome : "\t " ≠ "" := by decide
  have hBlanks :
      ∀ c ∈ "\t ".toList, c = ' ' ∨ c = '\t' := by
    simp
  have hClosed : ¬ EndsInString "\"a (\"<A1:".toList := by
    decide +kernel
  have hFront :
      tokenize "\"a (\"<A1:" =
        [.string "a (", .operator "<", .range "A1:"] := by
    decide +kernel
  refine ⟨hSome, hBlanks, hClosed, ?_⟩
  rw [tokenize_separated _ _ _ hSome hBlanks hClosed, hFront]

/- Behind a quote that is open, blanks are part of a string. -/
example :
    EndsInString "A1&\"a".toList ∧
      tokenize ("A1&\"a" ++ " " ++ "b") =
        [.cell "A1", .operator "&", .string "a b"] := by
  decide +kernel

end Spreadsheet

------------------------------------------------------------
-- Strings By Their Quotes
------------------------------------------------------------

namespace Spreadsheet

namespace Lexeme

variable {c : Char}
variable {text rest : List Char}
variable {kind : Kind}
variable {length : Nat}

/- No symbol is a string. -/
theorem kind_symbol_ne_string
    (c : Char)
    (rest : List Char) :
    (Piece.symbol c rest).1.kind ≠ some .string := by
  have hSingle : Piece.singleKind? c ≠ some .string := by
    unfold Piece.singleKind?
    split <;> simp
  unfold Piece.symbol Piece.pairKind?
  split
  · exact hSingle
  · split
    · rename_i hPair
      split at hPair <;> cases hPair <;> simp
    · exact hSingle

/- Only a quote begins a string. -/
theorem eq_quote_of_match?
    (hMatch : match? (c :: text) = some (.string, length)) :
    c = '"' := by
  by_contra hQuote
  rw [match?, stringLength?_eq_none hQuote, symbol?_eq]
    at hMatch
  simp [measure, kind_symbol_ne_string] at hMatch

/- Without quotes there is no string. -/
theorem not_isOpen_of_no_quote
    (hNone : '"' ∉ text)
    (skip offset : Nat) :
    ∀ lexeme ∈ scanFrom skip offset text, ¬ lexeme.IsOpen := by
  induction text generalizing skip offset with
  | nil =>
      rw [scanFrom_nil]
      exact fun _ hMember => absurd hMember List.not_mem_nil
  | cons c rest ih =>
      rw [List.mem_cons, not_or] at hNone
      cases skip with
      | succ skip => exact ih hNone.2 skip (offset + 1)
      | zero =>
          rw [scanFrom_zero]
          split
          · rename_i kind length hMatch
            rw [List.forall_mem_cons]
            refine ⟨?_, ih hNone.2 _ _⟩
            rintro ⟨rfl, -⟩
            exact hNone.1 (eq_quote_of_match? hMatch).symm
          · exact ih hNone.2 _ _

/- What is in front of all quotes does not count. -/
theorem exists_isOpen_front
    {front behind : List Char}
    (hFront : '"' ∉ front)
    (offset : Nat) :
    (∃ lexeme ∈ scanFrom 0 offset (front ++ '"' :: behind),
        lexeme.IsOpen) ↔
      ∃ lexeme ∈
          scanFrom 0 (offset + front.length) ('"' :: behind),
        lexeme.IsOpen := by
  have hClosed := not_isOpen_of_no_quote hFront 0 offset
  rw [scanFrom_append_barrier (.inr rfl) (Nat.zero_le _)
    hClosed]
  simp only [List.mem_append, or_and_right, exists_or]
  exact or_iff_right fun ⟨lexeme, hMember, hOpen⟩ =>
    hClosed lexeme hMember hOpen

/- Nor does a string with an end. -/
theorem exists_isOpen_closed
    {inside : List Char}
    (hInside : '"' ∉ inside)
    (offset : Nat) :
    (∃ lexeme ∈
          scanFrom 0 offset ('"' :: inside ++ '"' :: rest),
        lexeme.IsOpen) ↔
      ∃ lexeme ∈
          scanFrom 0
            (offset + ('"' :: inside ++ ['"']).length) rest,
        lexeme.IsOpen := by
  have hClosed :
      ¬ IsOpen ⟨.string, '"' :: inside ++ ['"'], offset⟩ :=
    fun hOpen => hOpen.2 (by simp)
  rw [scanFrom_closed hInside]
  simp only [List.mem_cons, or_and_right, exists_or,
    exists_eq_left]
  exact or_iff_right hClosed

/- A string stays open if the number of quotes is odd. -/
theorem exists_isOpen_iff
    (text : List Char)
    (offset : Nat) :
    (∃ lexeme ∈ scanFrom 0 offset text, lexeme.IsOpen) ↔
      text.count '"' % 2 = 1 := by
  -- Two quotes at a time, with what is in front of the first.
  induction hLength : text.length using Nat.strong_induction_on
    generalizing text offset with
  | _ length ih =>
      by_cases hSome : '"' ∈ text
      · obtain ⟨front, behind, rfl, hFront⟩ :=
          List.eq_append_cons_of_mem hSome
        rw [exists_isOpen_front hFront, List.count_append,
          List.count_cons_self, List.count_eq_zero.mpr hFront]
        by_cases hMore : '"' ∈ behind
        · obtain ⟨inside, rest, rfl, hInside⟩ :=
            List.eq_append_cons_of_mem hMore
          have hRest :=
            ih rest.length (by simp [← hLength]; omega) rest
              (offset + front.length +
                ('"' :: inside ++ ['"']).length) rfl
          rw [← List.cons_append, exists_isOpen_closed hInside,
            hRest, List.count_append, List.count_cons_self,
            List.count_eq_zero.mpr hInside]
          omega
        · rw [scanFrom_open hMore, List.count_eq_zero.mpr hMore]
          refine iff_of_true ?_ (by decide)
          exact ⟨_, List.mem_singleton_self _, rfl, hMore⟩
      · rw [List.count_eq_zero.mpr hSome]
        refine iff_of_false ?_ (by decide)
        rintro ⟨lexeme, hMember, hOpen⟩
        exact not_isOpen_of_no_quote hSome 0 offset lexeme
          hMember hOpen

end Lexeme

/- A text ends in a string if the number of quotes is odd. -/
theorem endsInString_iff
    (text : List Char) :
    EndsInString text ↔ text.count '"' % 2 = 1 :=
  Lexeme.exists_isOpen_iff text 0

end Spreadsheet
