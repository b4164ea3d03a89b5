import Spreadsheet.Proofs.Formula.Scanning

/-
  Tokens follow the rules.

  The text of a formula is cut by the rules into pieces, none
  of which is empty, and each of its characters is in exactly
  one of them.  The lexemes that a scan finds are the pieces
  that are not passed over, at their places, and the tokens
  are what these stand for.

  Main results:
    * `Spreadsheet.Piece.token_eq_value`
    * `Spreadsheet.tokenize_follows_rules`
-/

------------------------------------------------------------
-- Names
------------------------------------------------------------

namespace Spreadsheet

namespace Piece

/- Names are put in upper case letter by letter. -/
theorem upperText_eq
    {written : List Char}
    (hAscii : ∀ c ∈ written, c.toNat < 128) :
    Lexeme.upperText written = inCapitals written := by
  rw [Lexeme.upperText, Text.upper_of_ascii hAscii, inCapitals]

/- A name is written in ASCII. -/
theorem toNat_lt_of_mem_name
    {text : List Char}
    {c : Char}
    (hMem : c ∈ (name text).1.written) :
    c.toNat < 128 := by
  have hWhole :
      c ∈ text.takeWhile continuesName → c.toNat < 128 :=
    fun hMem => Lexeme.toNat_lt_of_continuesCall
      (continuesCall_of_name (List.mem_takeWhile_imp hMem))
  unfold name at hMem
  dsimp only at hMem
  split at hMem
  · exact hWhole hMem
  · split at hMem
    · rcases List.mem_append.mp hMem with hMem | hMem
      · exact hWhole hMem
      · rcases List.mem_cons.mp hMem with rfl | hMem
        · decide
        · have hOther := List.mem_takeWhile_imp hMem
          apply Lexeme.toNat_lt_of_continuesCall
          apply continuesCall_of_name
          rw [Char.isAlphanum, Bool.or_eq_true] at hOther
          rcases hOther with hLetter | hDigit
          · simp [continuesName, startsName, hLetter]
          · simp [continuesName, hDigit]
    · split at hMem
      · exact Lexeme.toNat_lt_of_continuesCall
          (List.mem_takeWhile_imp hMem)
      · split at hMem <;> exact hWhole hMem

/- The kinds of names. -/
theorem kind_name
    (text : List Char) :
    (name text).1.kind = some .boolean ∨
      (name text).1.kind = some .range ∨
      (name text).1.kind = some .function ∨
      (name text).1.kind = some .cell ∨
      (name text).1.kind = some .word := by
  unfold name
  dsimp only
  split
  · exact Or.inl rfl
  · split
    · exact Or.inr (Or.inl rfl)
    · split
      · exact Or.inr (Or.inr (Or.inl rfl))
      · split
        · exact Or.inr (Or.inr (Or.inr (Or.inl rfl)))
        · exact Or.inr (Or.inr (Or.inr (Or.inr rfl)))

theorem token_name
    {text : List Char}
    {kind : Lexeme.Kind}
    (hKind : (name text).1.kind = some kind)
    (start : Nat) :
    Lexeme.token ⟨kind, (name text).1.written, start⟩ =
      value (name text).1.written kind := by
  have hUpper :
      Lexeme.upperText (name text).1.written =
        inCapitals (name text).1.written :=
    upperText_eq fun _ => toNat_lt_of_mem_name
  rcases kind_name text with hName | hName | hName | hName |
    hName
  all_goals
    rw [hName] at hKind
    cases hKind
    simp only [Lexeme.token, Lexeme.isTrueWord, hUpper, value]
  rfl

end Piece

end Spreadsheet

------------------------------------------------------------
-- Strings, Numbers And Symbols
------------------------------------------------------------

namespace Spreadsheet

namespace Piece

/- A text without quotes is left of a string that is open. -/
theorem unquote_open
    {inside : List Char}
    (hInside : ∀ c ∈ inside, c ≠ '"') :
    Lexeme.unquote ('"' :: inside) = inside := by
  have hLast : inside.getLast? ≠ some '"' :=
    fun hLast =>
      hInside '"' (List.mem_of_getLast? hLast) rfl
  simp [Lexeme.unquote, hLast]

theorem unquote_closed
    (inside : List Char) :
    Lexeme.unquote ('"' :: (inside ++ ['"'])) = inside := by
  simp [Lexeme.unquote]

theorem token_quoted
    {rest : List Char}
    {kind : Lexeme.Kind}
    (hKind : (quoted rest).1.kind = some kind)
    (start : Nat) :
    Lexeme.token ⟨kind, (quoted rest).1.written, start⟩ =
      value (quoted rest).1.written kind := by
  rw [kind_quoted] at hKind
  cases hKind
  have hInside :
      ∀ c ∈ rest.takeWhile (· ≠ '"'),
        decide (c ≠ '"') = true := by
    intro c hMem
    simpa using List.mem_takeWhile_imp hMem
  have hText :
      ∀ c ∈ rest.takeWhile (· ≠ '"'), c ≠ '"' :=
    fun c hMem => of_decide_eq_true (hInside c hMem)
  have hStop :=
    Text.stop_of_head_dropWhile (· ≠ '"') rest
  simp only [Lexeme.token, value, quoted]
  cases hBehind : rest.dropWhile (· ≠ '"') with
  | nil =>
      simp only [List.drop_succ_cons, List.drop_zero,
        unquote_open hText]
      rw [List.takeWhile_eq_self_iff.mpr hInside]
  | cons quote behind =>
      rw [hBehind] at hStop
      have hQuote : quote = '"' := by
        simpa using hStop quote rfl
      subst hQuote
      have hEnd :
          ∀ c ∈ ['"'].head?, decide (c ≠ '"') = false := by
        rintro c ⟨rfl⟩
        rfl
      simp only [List.drop_succ_cons, List.drop_zero,
        unquote_closed]
      rw [Text.takeWhile_append_stop hInside hEnd]

theorem token_number
    (c : Char)
    (rest : List Char)
    (start : Nat) :
    Lexeme.token
        ⟨.number, (c :: rest).takeWhile isNumeric, start⟩ =
      value ((c :: rest).takeWhile isNumeric) .number := by
  have hRun :
      Number.IsRun ((c :: rest).takeWhile isNumeric) := by
    intro other hMem
    have hNumeric := List.mem_takeWhile_imp hMem
    rwa [isNumeric, Bool.or_eq_true, decide_eq_true_eq]
      at hNumeric
  rw [Lexeme.token, value]
  exact congrArg Token.number
    (Number.leadingDecimal?_eq_longest hRun)

theorem token_single
    {c : Char}
    {kind : Lexeme.Kind}
    (hKind : singleKind? c = some kind)
    (start : Nat) :
    Lexeme.token ⟨kind, [c], start⟩ = value [c] kind := by
  unfold singleKind? at hKind
  split at hKind
  case h_15 => cases hKind
  all_goals
    cases hKind
    rfl

theorem token_pair
    {c next : Char}
    {kind : Lexeme.Kind}
    (hKind : pairKind? c next = some kind)
    (start : Nat) :
    Lexeme.token ⟨kind, [c, next], start⟩ =
      value [c, next] kind := by
  unfold pairKind? at hKind
  split at hKind
  case h_4 => cases hKind
  all_goals
    cases hKind
    rfl

theorem token_symbol
    {c : Char}
    {rest : List Char}
    {kind : Lexeme.Kind}
    (hKind : (symbol c rest).1.kind = some kind)
    (start : Nat) :
    Lexeme.token ⟨kind, (symbol c rest).1.written, start⟩ =
      value (symbol c rest).1.written kind := by
  unfold symbol at hKind ⊢
  cases rest with
  | nil => exact token_single hKind start
  | cons next behind =>
      dsimp only at hKind ⊢
      cases hPair : pairKind? c next with
      | none =>
          rw [hPair] at hKind
          exact token_single hKind start
      | some pair =>
          rw [hPair] at hKind
          cases hKind
          exact token_pair hPair start

/- The token of a piece is what the piece stands for. -/
theorem token_eq_value
    {c : Char}
    {rest : List Char}
    {kind : Lexeme.Kind}
    (hKind : (cut c rest).1.kind = some kind)
    (start : Nat) :
    Lexeme.token ⟨kind, (cut c rest).1.written, start⟩ =
      value (cut c rest).1.written kind := by
  unfold cut at hKind ⊢
  split at hKind
  · cases hKind
  · rename_i hBlank
    rw [if_neg hBlank]
    split at hKind
    · rename_i hQuote
      rw [if_pos hQuote]
      exact token_quoted hKind start
    · rename_i hQuote
      rw [if_neg hQuote]
      split at hKind
      · rename_i hNumeric
        rw [if_pos hNumeric]
        cases hKind
        exact token_number c rest start
      · rename_i hNumeric
        rw [if_neg hNumeric]
        split at hKind
        · rename_i hStart
          rw [if_pos hStart]
          exact token_name hKind start
        · rename_i hStart
          rw [if_neg hStart]
          exact token_symbol hKind start

end Piece

end Spreadsheet

------------------------------------------------------------
-- Tokens
------------------------------------------------------------

namespace Spreadsheet

/- The tokens of lexemes are those of the pieces. -/
theorem map_token_lexemesFrom
    (text : List Char)
    (offset : Nat) :
    (Piece.lexemesFrom offset (pieces text)).map
        Lexeme.token =
      (pieces text).filterMap Piece.token? := by
  fun_induction pieces text generalizing offset with
  | case1 => rfl
  | case2 c rest ih =>
      rw [Piece.lexemesFrom, List.filterMap_cons,
        Piece.token?]
      cases hKind : (Piece.cut c rest).1.kind with
      | none => exact ih _
      | some kind =>
          simp only [Option.map_some, List.map_cons, ih,
            Piece.token_eq_value hKind]

/-
  The lexemes and tokens of a formula without folding letters
  are those of the pieces into which the rules cut it.  Each
  of its characters is in exactly one piece, and no piece is
  empty.
-/
theorem tokenize_follows_rules
    (text : String)
    (hPlain : Text.IsPlain text.toList) :
    tokenize text =
        (pieces text.toList).filterMap Piece.token? ∧
      Lexeme.scan text.toList =
        Piece.lexemesFrom 0 (pieces text.toList) ∧
      (pieces text.toList).flatMap Piece.written =
        text.toList ∧
      ∀ piece ∈ pieces text.toList, piece.written ≠ [] := by
  have hScan :
      Lexeme.scan text.toList =
        Piece.lexemesFrom 0 (pieces text.toList) :=
    Lexeme.scanFrom_eq hPlain 0
  refine ⟨?_, hScan, flatMap_written_pieces _,
    fun _ => written_ne_nil_of_mem_pieces⟩
  rw [tokenize, hScan]
  exact map_token_lexemesFrom _ 0

/- A text with names that begin like others, and more. -/
def entangled : String :=
  "TRUE1:B2 TRUE:A1.B(A12B,$A1:b2)<=1.2.3#\"open)"

/-
  Of all these names only the last is a cell, and the string
  goes on to the end of the text.
-/
theorem tokenize_entangled :
    Text.IsPlain entangled.toList ∧
    (pieces entangled.toList).map (fun piece =>
        String.ofList piece.written) =
      ["TRUE1:B2", " ", "TRUE", ":", "A1.B", "(", "A12B", ",",
        "$A1", ":", "b2", ")", "<=", "1.2.3", "#",
        "\"open)"] ∧
    tokenize entangled =
      (pieces entangled.toList).filterMap Piece.token? := by
  have hPlain : Text.IsPlain entangled.toList := by
    decide +kernel
  exact ⟨hPlain, by decide +kernel,
    (tokenize_follows_rules entangled hPlain).1⟩

end Spreadsheet
