import Spreadsheet.Formula.Reading
import Spreadsheet.Formula.References
import Spreadsheet.Function.Name
import Spreadsheet.Proofs.Text.Fold

/-
  Spellings of names.

  The names of cells, areas and functions and the truth words
  can be written in letters of either case, and a function
  under any of its names.  The standard spelling has capitals
  and the English names.  Reading looks at the kinds of
  lexemes only, so the formula of lexemes in the standard
  spelling is the standard spelling of their formula.

  Key definitions include:
    * `Spreadsheet.Lexeme.Respells`
    * `Spreadsheet.Lexeme.standard`
    * `Spreadsheet.Expr.standard`

  Main results:
    * `Spreadsheet.Lexeme.Respells.standard_eq`
    * `Spreadsheet.Reading.step?_standard`
    * `Spreadsheet.Expr.ofBody_respelt`
-/

------------------------------------------------------------
-- Capitals
------------------------------------------------------------

namespace Spreadsheet

namespace Text

/- A letter and its capital have the same upper-case form. -/
theorem upperChar_toUpper
    (c : Char) :
    upperChar c.toUpper = upperChar c := by
  rcases Nat.lt_or_ge c.toNat 128 with hAscii | hBeyond
  · have hCapital :
        c.toUpper.toNat < 128 ∧
          c.toUpper.toUpper = c.toUpper :=
      forall_ascii
        (motive := fun c => c.toUpper.toNat < 128 ∧
          c.toUpper.toUpper = c.toUpper)
        (by decide +kernel) hAscii
    rw [upperChar_of_ascii hAscii,
      upperChar_of_ascii hCapital.1, hCapital.2]
  · rw [toUpper_of_beyond hBeyond]

theorem upper_map_toUpper
    (text : List Char) :
    upper (text.map Char.toUpper) = upper text := by
  rw [upper, List.flatMap_map]
  exact congrArg (text.flatMap ·) (funext upperChar_toUpper)

end Text

end Spreadsheet

------------------------------------------------------------
-- Names
------------------------------------------------------------

namespace Spreadsheet

namespace Function

/- The names of a function, the English one first. -/
def names
    (function : Function) :
    List String :=
  function.name :: function.otherNames

theorem mem_all
    (function : Function) :
    function ∈ all := by
  cases function <;> decide

/- A function is found by each of its names. -/
theorem named?_of_mem_names
    {function : Function}
    {name : String}
    (hName : name ∈ function.names) :
    named? name = some function := by
  have hAll :
      ∀ other ∈ all, ∀ name ∈ other.names,
        named? name = some other := by
    decide +kernel
  exact hAll function function.mem_all name hName

end Function

namespace Expr

/- A name with the letters of ASCII in capitals. -/
def capitals
    (written : String) :
    String :=
  String.ofList (written.toList.map Char.toUpper)

/- The English name of a function; capitals if there is none. -/
def standardName
    (written : String) :
    String :=
  match Function.named? (upperName written) with
  | some function => function.name
  | none => capitals written

theorem upperName_capitals
    (written : String) :
    upperName (capitals written) = upperName written := by
  rw [upperName, capitals, String.toList_ofList,
    Lexeme.upperText, Text.upper_map_toUpper]
  rfl

/- The English names are written in capitals. -/
theorem upperName_name
    (function : Function) :
    upperName function.name = function.name := by
  have hAscii :
      ∀ other ∈ Function.all,
        other.name.toList.all (·.toNat < 128) := by
    decide +kernel
  have hCapitals :
      ∀ other ∈ Function.all,
        other.name.toList.map Char.toUpper =
          other.name.toList := by
    decide +kernel
  have hName := hAscii function function.mem_all
  rw [List.all_eq_true] at hName
  rw [upperName, Lexeme.upperText,
    Text.upper_of_ascii fun c hMember =>
      of_decide_eq_true (hName c hMember),
    hCapitals function function.mem_all,
    String.ofList_toList]

/- The standard name is another name of the same function. -/
theorem named?_standardName
    (written : String) :
    Function.named? (upperName (standardName written)) =
      Function.named? (upperName written) := by
  unfold standardName
  split
  · rename_i function hFunction
    rw [upperName_name, hFunction]
    exact Function.named?_of_mem_names List.mem_cons_self
  · rw [upperName_capitals]

end Expr

end Spreadsheet

------------------------------------------------------------
-- Lexemes
------------------------------------------------------------

namespace Spreadsheet

namespace Lexeme

/- The kinds of lexemes that are written in letters. -/
def Kind.isName :
    Kind → Bool
  | boolean => true
  | range => true
  | function => true
  | cell => true
  | _ => false

/-
  A lexeme of the same kind is another spelling, wherever it
  stands: the same text, the same letters in another case, or
  another name of the same function.
-/
inductive Respells
    (lexeme other : Lexeme) : Prop where
  | same
      (hKind : other.kind = lexeme.kind)
      (hWritten : other.written = lexeme.written)
  | letters
      (hKind : other.kind = lexeme.kind)
      (hName : lexeme.kind.isName = true)
      (hLetters :
        other.written.map Char.toUpper =
          lexeme.written.map Char.toUpper)
  | function
      (hKind : other.kind = lexeme.kind)
      (hName : lexeme.kind = .function)
      (function : Function)
      (hWritten : upperText lexeme.written ∈ function.names)
      (hOther : upperText other.written ∈ function.names)

/- It can be decided, since the functions are finitely many. -/
theorem respells_iff
    {lexeme other : Lexeme} :
    lexeme.Respells other ↔
      other.kind = lexeme.kind ∧
        (other.written = lexeme.written ∨
          lexeme.kind.isName = true ∧
            other.written.map Char.toUpper =
              lexeme.written.map Char.toUpper ∨
          lexeme.kind = .function ∧
            ∃ function ∈ Function.all,
              upperText lexeme.written ∈ function.names ∧
                upperText other.written ∈
                  function.names) := by
  constructor
  · rintro (⟨hKind, hWritten⟩ | ⟨hKind, hName, hLetters⟩ |
      ⟨hKind, hName, function, hWritten, hOther⟩)
    · exact ⟨hKind, .inl hWritten⟩
    · exact ⟨hKind, .inr (.inl ⟨hName, hLetters⟩)⟩
    · exact ⟨hKind, .inr (.inr ⟨hName, function,
        function.mem_all, hWritten, hOther⟩)⟩
  · rintro ⟨hKind, hWritten | ⟨hName, hLetters⟩ |
      ⟨hName, function, -, hWritten, hOther⟩⟩
    · exact .same hKind hWritten
    · exact .letters hKind hName hLetters
    · exact .function hKind hName function hWritten hOther

instance (lexeme other : Lexeme) :
    Decidable (lexeme.Respells other) :=
  decidable_of_iff _ respells_iff.symm

/- The standard spelling of what is written for a lexeme. -/
def standardText
    (kind : Kind)
    (written : String) :
    String :=
  match kind with
  | .boolean => Expr.capitals written
  | .range => Expr.capitals written
  | .function => Expr.standardName written
  | .cell => Expr.capitals written
  | _ => written

/- A lexeme in the standard spelling, at no place. -/
def standard
    (lexeme : Lexeme) :
    Lexeme where
  kind := lexeme.kind
  written :=
    (standardText lexeme.kind
      (String.ofList lexeme.written)).toList
  start := 0

@[simp] theorem kind_standard
    (lexeme : Lexeme) :
    lexeme.standard.kind = lexeme.kind :=
  rfl

@[simp] theorem ofList_written_standard
    (lexeme : Lexeme) :
    String.ofList lexeme.standard.written =
      standardText lexeme.kind
        (String.ofList lexeme.written) :=
  String.ofList_toList

variable {lexeme other : Lexeme}

theorem standardText_of_letters
    (hName : lexeme.kind.isName = true)
    (hLetters :
      other.written.map Char.toUpper =
        lexeme.written.map Char.toUpper) :
    standardText lexeme.kind (String.ofList other.written) =
      standardText lexeme.kind
        (String.ofList lexeme.written) := by
  have hCapitals :
      Expr.capitals (String.ofList other.written) =
        Expr.capitals (String.ofList lexeme.written) := by
    simp only [Expr.capitals, String.toList_ofList, hLetters]
  have hUpper :
      Expr.upperName (String.ofList other.written) =
        Expr.upperName (String.ofList lexeme.written) := by
    rw [← Expr.upperName_capitals, hCapitals,
      Expr.upperName_capitals]
  cases hKind : lexeme.kind with
  | boolean => exact hCapitals
  | range => exact hCapitals
  | cell => exact hCapitals
  | function =>
      simp only [standardText, Expr.standardName, hUpper,
        hCapitals]
  | _ =>
      rw [hKind] at hName
      cases hName

theorem standardText_of_names
    {function : Function}
    (hWritten : upperText lexeme.written ∈ function.names) :
    standardText .function (String.ofList lexeme.written) =
      function.name := by
  have hNamed :
      Function.named?
          (Expr.upperName (String.ofList lexeme.written)) =
        some function := by
    rw [Expr.upperName, String.toList_ofList]
    exact Function.named?_of_mem_names hWritten
  simp only [standardText, Expr.standardName, hNamed]

/- All spellings of a lexeme have one standard. -/
theorem Respells.standard_eq
    (hRespells : lexeme.Respells other) :
    other.standard = lexeme.standard := by
  rcases hRespells with
    ⟨hKind, hWritten⟩ | ⟨hKind, hName, hLetters⟩ |
      ⟨hKind, hName, function, hWritten, hOther⟩
  · rw [standard, standard, hKind, hWritten]
  · rw [standard, standard, hKind,
      standardText_of_letters hName hLetters]
  · rw [standard, standard, hKind, hName,
      standardText_of_names hWritten,
      standardText_of_names hOther]

theorem map_standard_of_respelt
    {lexemes respelt : List Lexeme}
    (hSpelling : List.Forall₂ Respells lexemes respelt) :
    respelt.map standard = lexemes.map standard := by
  induction hSpelling with
  | nil => rfl
  | cons hFirst hRest ih =>
      rw [List.map_cons, List.map_cons, ih, hFirst.standard_eq]

end Lexeme

end Spreadsheet

------------------------------------------------------------
-- Formulas
------------------------------------------------------------

namespace Spreadsheet

namespace Expr

mutual

/- A formula in the standard spelling. -/
def standard :
    Expr → Expr
  | number written => .number written
  | string written => .string written
  | word written => .word written
  | boolean written => .boolean (capitals written)
  | cell written => .cell (capitals written)
  | range written => .range (capitals written)
  | call name arguments =>
      .call (standardName name) (standardAll arguments)
  | unary op operand => .unary op operand.standard
  | binary op left right =>
      .binary op left.standard right.standard
termination_by structural formula => formula

/- Formulas in the standard spelling. -/
def standardAll :
    List Expr → List Expr
  | [] => []
  | formula :: rest => formula.standard :: standardAll rest
termination_by structural formulas => formulas

end

theorem standardAll_append
    (formulas : List Expr)
    (last : Expr) :
    standardAll (formulas ++ [last]) =
      standardAll formulas ++ [last.standard] := by
  induction formulas with
  | nil => rfl
  | cons formula rest ih =>
      rw [List.cons_append, standardAll, ih, standardAll]
      rfl

end Expr

/- What is still open, in the standard spelling. -/
def Frame.standard :
    Frame → Frame
  | unary op => .unary op
  | binary op left => .binary op left.standard
  | group => .group
  | call name arguments =>
      .call (Expr.standardName name)
        (Expr.standardAll arguments)

/- A reading in the standard spelling. -/
def Reading.standard :
    Reading → Reading
  | expecting stack => .expecting (stack.map Frame.standard)
  | named name stack =>
      .named (Expr.standardName name)
        (stack.map Frame.standard)
  | holding stack operand =>
      .holding (stack.map Frame.standard) operand.standard

end Spreadsheet

------------------------------------------------------------
-- Reading
------------------------------------------------------------

namespace Spreadsheet

namespace Reading

/- Operators are applied whatever the spelling is. -/
theorem absorb_standard
    (level : Nat)
    (stack : List Frame)
    (operand : Expr) :
    absorb level (stack.map Frame.standard)
        operand.standard =
      ((absorb level stack operand).1.map Frame.standard,
        (absorb level stack operand).2.standard) := by
  fun_induction absorb level stack operand with
  | case1 op stack operand ih => exact ih
  | case2 op left stack operand hLevel ih =>
      rw [List.map_cons, Frame.standard, absorb, if_pos hLevel]
      exact ih
  | case3 op left stack operand hLevel =>
      rw [List.map_cons, Frame.standard, absorb, if_neg hLevel]
  | case4 stack operand hUnary hBinary =>
      cases stack with
      | nil => rfl
      | cons frame stack =>
          cases frame with
          | unary op => exact (hUnary op stack rfl).elim
          | binary op left =>
              exact (hBinary op left stack rfl).elim
          | group => rfl
          | call name arguments => rfl

theorem leaf?_standard
    (lexeme : Lexeme) :
    leaf? lexeme.standard =
      (leaf? lexeme).map Expr.standard := by
  unfold leaf?
  simp only [Lexeme.kind_standard,
    Lexeme.ofList_written_standard]
  cases lexeme.kind <;> rfl

theorem stepExpecting?_standard
    (stack : List Frame)
    (lexeme : Lexeme) :
    stepExpecting? (stack.map Frame.standard)
        lexeme.standard =
      (stepExpecting? stack lexeme).map standard := by
  have hLeaf :
      (leaf? lexeme.standard).map
          (holding (stack.map Frame.standard)) =
        ((leaf? lexeme).map (holding stack)).map
          standard := by
    rw [leaf?_standard, Option.map_map, Option.map_map]
    rfl
  unfold stepExpecting?
  simp only [Lexeme.kind_standard,
    Lexeme.ofList_written_standard]
  cases hKind : lexeme.kind with
  | operator op =>
      simp only [Option.map_map]
      rfl
  | openParen => rfl
  | function => rfl
  | closeParen =>
      cases stack with
      | nil => rfl
      | cons frame stack =>
          cases frame with
          | call name arguments =>
              cases arguments with
              | nil => rfl
              | cons argument rest => rfl
          | _ => rfl
  | _ => exact hLeaf

theorem stepHolding?_standard
    (stack : List Frame)
    (operand : Expr)
    (lexeme : Lexeme) :
    stepHolding? (stack.map Frame.standard) operand.standard
        lexeme.standard =
      (stepHolding? stack operand lexeme).map standard := by
  unfold stepHolding?
  simp only [Lexeme.kind_standard, absorb_standard]
  rcases hClosed : absorb 0 stack operand with
    ⟨closed, formula⟩
  cases lexeme.kind with
  | operator op => rfl
  | comma =>
      cases closed with
      | nil => rfl
      | cons frame closed =>
          cases frame with
          | call name arguments =>
              simp only [List.map_cons, Frame.standard,
                Option.map_some, standard,
                Expr.standardAll_append]
          | _ => rfl
  | closeParen =>
      cases closed with
      | nil => rfl
      | cons frame closed =>
          cases frame with
          | call name arguments =>
              simp only [List.map_cons, Frame.standard,
                Option.map_some, standard, Expr.standard,
                Expr.standardAll_append]
          | _ => rfl
  | _ => rfl

/- A lexeme is accepted whatever its spelling is. -/
theorem step?_standard
    (reading : Reading)
    (lexeme : Lexeme) :
    reading.standard.step? lexeme.standard =
      (reading.step? lexeme).map standard := by
  cases reading with
  | expecting stack => exact stepExpecting?_standard stack lexeme
  | named name stack =>
      by_cases hOpen : lexeme.kind = .openParen
      · simp only [step?, standard, Lexeme.kind_standard,
          hOpen, if_true]
        rfl
      · simp only [step?, standard, Lexeme.kind_standard,
          hOpen, if_false]
        rfl
  | holding stack operand =>
      exact stepHolding?_standard stack operand lexeme

theorem finish?_standard
    (reading : Reading) :
    reading.standard.finish? =
      reading.finish?.map Expr.standard := by
  cases reading with
  | expecting stack => rfl
  | named name stack => rfl
  | holding stack operand =>
      simp only [finish?, standard, absorb_standard]
      rcases absorb 0 stack operand with ⟨rest, formula⟩
      cases rest with
      | nil => rfl
      | cons frame rest => rfl

/- So lexemes are read as far, to the same reading. -/
theorem advance_standard
    (reading : Reading)
    (last other : Lexeme)
    (lexemes : List Lexeme) :
    (reading.standard.advance other
        (lexemes.map Lexeme.standard)).1 =
      (reading.advance last lexemes).1.standard := by
  induction lexemes generalizing reading last other with
  | nil => rfl
  | cons lexeme rest ih =>
      rw [List.map_cons, advance, advance, step?_standard]
      cases reading.step? lexeme with
      | none => rfl
      | some next => exact ih next _ _

end Reading

namespace Expr

/- The formula that lexemes are, if they are one. -/
theorem toOption_ofLexemes
    (text : List Char)
    (first : Lexeme)
    (rest : List Lexeme) :
    (ofLexemes text (first :: rest)).toOption =
      (Reading.start.advance first
        (first :: rest)).1.finish? := by
  rcases hAdvance :
      Reading.start.advance first (first :: rest) with
    ⟨reading, last⟩
  simp only [ofLexemes, hAdvance]
  cases reading.finish? with
  | none => rfl
  | some formula => rfl

/- It is so up to spelling, whatever the places are. -/
theorem ofLexemes_standard
    (text other : List Char)
    {lexemes respelt : List Lexeme}
    (hStandard :
      respelt.map Lexeme.standard =
        lexemes.map Lexeme.standard) :
    (ofLexemes other respelt).toOption.map standard =
      (ofLexemes text lexemes).toOption.map standard := by
  cases lexemes with
  | nil =>
      rw [List.map_eq_nil_iff.mp hStandard]
      rfl
  | cons first rest =>
      cases respelt with
      | nil => cases hStandard
      | cons start more =>
          rw [toOption_ofLexemes, toOption_ofLexemes,
            ← Reading.finish?_standard,
            ← Reading.finish?_standard,
            ← Reading.advance_standard _ _ first,
            ← Reading.advance_standard _ _ first, hStandard]

/-
  Texts with the same lexemes up to their spelling are
  formulas that are the same up to it, or are none both.
-/
theorem ofBody_respelt
    {body other : List Char}
    (hSpelling :
      List.Forall₂ Lexeme.Respells (Lexeme.scan body)
        (Lexeme.scan other)) :
    (ofBody other).toOption.map standard =
      (ofBody body).toOption.map standard :=
  ofLexemes_standard body other
    (Lexeme.map_standard_of_respelt hSpelling)

end Expr

end Spreadsheet
