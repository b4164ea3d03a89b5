import Mathlib.Data.List.Infix
import Spreadsheet.Criteria

/-
  Criteria with wildcards.

  A criterion with wildcards accepts the texts that can be
  cut into consecutive pieces, one for each of its characters:
  an asterisk takes any piece, a question mark any one
  character and every other character the same letter in
  either case.  The rows of the matcher hold this for every
  end of the text at once; here it is read off from them one
  piece after the other.

  Key definitions include:
    * `Spreadsheet.Pattern.Takes`
    * `Spreadsheet.Pattern.Cuts`

  Main results:
    * `Spreadsheet.Pattern.drop_rowOf`
    * `Spreadsheet.Pattern.accepts_ofChar_cons`
    * `Spreadsheet.Pattern.accepts_iff_cuts`
    * `Spreadsheet.Criterion.ofText_pattern`
    * `Spreadsheet.Datum.satisfies_iff_cuts`
-/

------------------------------------------------------------
-- Cuts
------------------------------------------------------------

namespace Spreadsheet

namespace Pattern

/- What a character of a pattern takes of a text. -/
inductive Takes : Char → List Char → Prop where
  | anyText
      (piece : List Char) :
      Takes '*' piece
  | anyChar
      (c : Char) :
      Takes '?' [c]
  | letter
      {l c : Char}
      (hStar : l ≠ '*')
      (hMark : l ≠ '?')
      (hSame : Text.sameLetter l c = true) :
      Takes l [c]

/-
  A text can be cut into consecutive pieces, one for each
  character of a pattern.
-/
def Cuts
    (pattern text : List Char) : Prop :=
  ∃ pieces : List (List Char),
    pieces.flatten = text ∧ List.Forall₂ Takes pattern pieces

/- The empty pattern cuts the empty text. -/
@[simp]
theorem cuts_nil
    {text : List Char} :
    Cuts [] text ↔ text = [] := by
  constructor
  · rintro ⟨pieces, rfl, ⟨⟩⟩
    rfl
  · rintro rfl
    exact ⟨[], rfl, .nil⟩

/- The first character takes a piece, the others cut the rest. -/
theorem cuts_cons
    {l : Char}
    {pattern text : List Char} :
    Cuts (l :: pattern) text ↔
      ∃ piece rest,
        piece ++ rest = text ∧ Takes l piece ∧
          Cuts pattern rest := by
  constructor
  · rintro ⟨pieces, rfl, hTakes⟩
    cases hTakes with
    | cons hFirst hOthers =>
        exact ⟨_, _, rfl, hFirst, _, rfl, hOthers⟩
  · rintro ⟨piece, rest, rfl, hFirst, pieces, rfl, hOthers⟩
    exact ⟨piece :: pieces, rfl, .cons hFirst hOthers⟩

end Pattern

end Spreadsheet

------------------------------------------------------------
-- Rows
------------------------------------------------------------

namespace Spreadsheet

namespace Pattern

variable {pieces : List Piece}
variable {c : Char}
variable {text : List Char}

/- Without its first entry a row is that of the next end. -/
theorem drop_rowOf :
    (rowOf (c :: text) pieces).drop 1 = rowOf text pieces := by
  induction pieces with
  | nil => rfl
  | cons piece pieces ih =>
      rw [rowOf, rowOf, ← ih]
      rfl

/- No piece is left: nothing of the text may be left. -/
theorem accepts_nil :
    accepts [] text = true ↔ text = [] := by
  cases text with
  | nil => simp [accepts, rowOf, emptyRow, firstOf]
  | cons c text => simp [accepts, rowOf, emptyRow, firstOf]

/- Any text may be taken: any end of the text may be left. -/
theorem accepts_anyText :
    accepts (.anyText :: pieces) text = true ↔
      ∃ rest, rest <:+ text ∧ accepts pieces rest = true := by
  induction text with
  | nil =>
      simp [accepts, rowOf, Piece.extend, firstOf]
  | cons c text ih =>
      have hStep :
          accepts (.anyText :: pieces) (c :: text) =
            (accepts pieces (c :: text) ||
              accepts (.anyText :: pieces) text) := by
        rw [accepts, rowOf, Piece.extend, drop_rowOf]
        rfl
      rw [hStep, Bool.or_eq_true, ih]
      constructor
      · rintro (hHere | ⟨rest, hRest, hAccepts⟩)
        · exact ⟨_, List.suffix_rfl, hHere⟩
        · exact ⟨rest, hRest.trans (List.suffix_cons c text),
            hAccepts⟩
      · rintro ⟨rest, hRest, hAccepts⟩
        rcases List.suffix_cons_iff.mp hRest with rfl | hRest
        · exact .inl hAccepts
        · exact .inr ⟨rest, hRest, hAccepts⟩

/- One character is taken, the others are left. -/
theorem accepts_anyChar :
    accepts (.anyChar :: pieces) text = true ↔
      ∃ c rest, text = c :: rest ∧
        accepts pieces rest = true := by
  cases text with
  | nil => simp [accepts, rowOf, Piece.extend, firstOf]
  | cons c text =>
      rw [accepts, rowOf, Piece.extend, drop_rowOf]
      simp [accepts, firstOf]

/- One letter is taken if it is the same one. -/
theorem accepts_letter
    {l : Char} :
    accepts (.letter l :: pieces) text = true ↔
      ∃ c rest, text = c :: rest ∧
        Text.sameLetter l c = true ∧
          accepts pieces rest = true := by
  cases text with
  | nil => simp [accepts, rowOf, Piece.extend, firstOf]
  | cons c text =>
      rw [accepts, rowOf, Piece.extend, drop_rowOf]
      simp [accepts, firstOf]

end Pattern

end Spreadsheet

------------------------------------------------------------
-- Patterns
------------------------------------------------------------

namespace Spreadsheet

namespace Pattern

/- The empty pattern has no pieces. -/
theorem ofText_nil : ofText [] = [] := rfl

/- A pattern has one piece for each character. -/
theorem ofText_cons
    (l : Char)
    (pattern : List Char) :
    ofText (l :: pattern) =
      Piece.ofChar l :: ofText pattern := rfl

/- The first character of a pattern takes some piece. -/
theorem accepts_ofChar_cons
    {l : Char}
    {pieces : List Piece}
    {text : List Char} :
    accepts (Piece.ofChar l :: pieces) text = true ↔
      ∃ piece rest,
        piece ++ rest = text ∧ Takes l piece ∧
          accepts pieces rest = true := by
  rw [Piece.ofChar]
  split_ifs with hStar hMark
  · subst hStar
    rw [accepts_anyText]
    constructor
    · rintro ⟨rest, ⟨piece, hText⟩, hAccepts⟩
      exact ⟨piece, rest, hText, .anyText piece, hAccepts⟩
    · rintro ⟨piece, rest, hText, -, hAccepts⟩
      exact ⟨rest, ⟨piece, hText⟩, hAccepts⟩
  · subst hMark
    rw [accepts_anyChar]
    constructor
    · rintro ⟨c, rest, rfl, hAccepts⟩
      exact ⟨[c], rest, rfl, .anyChar c, hAccepts⟩
    · rintro ⟨_, rest, rfl, hTakes, hAccepts⟩
      cases hTakes with
      | anyChar c => exact ⟨c, rest, rfl, hAccepts⟩
      | letter _ hMark _ => exact absurd rfl hMark
  · rw [accepts_letter]
    constructor
    · rintro ⟨c, rest, rfl, hSame, hAccepts⟩
      exact ⟨[c], rest, rfl, .letter hStar hMark hSame,
        hAccepts⟩
    · rintro ⟨_, rest, rfl, hTakes, hAccepts⟩
      cases hTakes with
      | anyText _ => exact absurd rfl hStar
      | anyChar _ => exact absurd rfl hMark
      | letter _ _ hSame =>
          exact ⟨_, rest, rfl, hSame, hAccepts⟩

/- A pattern matches the texts that it cuts. -/
theorem accepts_iff_cuts
    {pattern text : List Char} :
    accepts (ofText pattern) text = true ↔
      Cuts pattern text := by
  induction pattern generalizing text with
  | nil => rw [ofText_nil, accepts_nil, cuts_nil]
  | cons l pattern ih =>
      rw [ofText_cons, accepts_ofChar_cons, cuts_cons]
      simp only [ih]

end Pattern

end Spreadsheet

------------------------------------------------------------
-- Criteria
------------------------------------------------------------

namespace Spreadsheet

namespace Criterion

/- A text without a symbol in front is not split. -/
theorem splitComparison?_eq_none
    {text : List Char}
    (hPlain :
      ∀ comparison : Comparison,
        ¬ comparison.symbol.toList <+: text) :
    splitComparison? text = none := by
  have hNone :
      ∀ (comparison : Comparison) (rest : List Char),
        text ≠ comparison.symbol.toList ++ rest := by
    rintro comparison rest rfl
    exact hPlain comparison (List.prefix_append _ _)
  rw [splitComparison?.eq_def]
  split
  · exact absurd rfl (hNone .ne _)
  · exact absurd rfl (hNone .ge _)
  · exact absurd rfl (hNone .le _)
  · exact absurd rfl (hNone .gt _)
  · exact absurd rfl (hNone .lt _)
  · exact absurd rfl (hNone .eq _)
  · rfl

/- A text with wildcards and no symbol in front is a pattern. -/
theorem ofText_pattern
    {text : String}
    (hPlain :
      ∀ comparison : Comparison,
        ¬ comparison.symbol.toList <+: text.toList)
    (hWild : '*' ∈ text.toList ∨ '?' ∈ text.toList) :
    ofText text = .pattern (Pattern.ofText text.toList) := by
  have hHas : Pattern.hasWildcard text.toList = true := by
    simpa [Pattern.hasWildcard] using hWild
  rw [ofText, splitComparison?_eq_none hPlain]
  simp only [hHas, if_true]

end Criterion

namespace Datum

open Pattern (Cuts)

/-
  A criterion with wildcards and no comparison in front is
  satisfied by the data whose text it cuts.  It fails only for
  data without a text; values of cells always have one.
-/
theorem satisfies_iff_cuts
    {criterion : String}
    (hPlain :
      ∀ comparison : Comparison,
        ¬ comparison.symbol.toList <+: criterion.toList)
    (hWild :
      '*' ∈ criterion.toList ∨ '?' ∈ criterion.toList) :
    (∀ value : Value,
      ∃ verdict,
        value.satisfies criterion = .ok verdict ∧
        (verdict = true ↔
          Cuts criterion.toList value.toText.toList)) ∧
    (∀ (datum : Datum) (text : String),
      datum.toText = .ok text →
      ∃ verdict,
        datum.satisfies criterion = .ok verdict ∧
        (verdict = true ↔
          Cuts criterion.toList text.toList)) ∧
    (∀ (datum : Datum) (failure : Failure),
      datum.toText = .error failure →
      datum.satisfies criterion = .error failure) := by
  have hAccepts :
      ∀ (text : String)
        (number : Except Failure (Option Float)),
        ∃ verdict,
          (Criterion.ofText criterion).accepts text number =
            .ok verdict ∧
          (verdict = true ↔
            Cuts criterion.toList text.toList) := by
    intro text number
    rw [Criterion.ofText_pattern hPlain hWild]
    exact ⟨_, rfl, Pattern.accepts_iff_cuts⟩
  refine ⟨fun value => hAccepts _ _, ?_, ?_⟩
  · intro datum text hText
    rw [satisfies, hText]
    exact hAccepts _ _
  · intro datum failure hText
    rw [satisfies, hText]
    rfl

/- A pattern with all kinds of characters, and two lines. -/
theorem satisfies_iff_cuts_lines :
    (∀ comparison : Comparison,
      ¬ comparison.symbol.toList <+: "a.*?**".toList) ∧
    ('*' ∈ "a.*?**".toList ∨ '?' ∈ "a.*?**".toList) ∧
    (∃ verdict,
      (Value.text "A.\nx").satisfies "a.*?**" = .ok verdict ∧
      (verdict = true ↔
        Cuts "a.*?**".toList
          (Value.text "A.\nx").toText.toList)) ∧
    (Datum.list [.missing]).toText = .ok "None" ∧
    ∃ verdict,
      (Datum.list [.missing]).satisfies "a.*?**" =
        .ok verdict ∧
      (verdict = true ↔
        Cuts "a.*?**".toList "None".toList) := by
  have hPlain :
      ∀ comparison : Comparison,
        ¬ comparison.symbol.toList <+: "a.*?**".toList := by
    intro comparison
    cases comparison <;> decide +kernel
  have hWild :
      '*' ∈ "a.*?**".toList ∨ '?' ∈ "a.*?**".toList := by
    decide
  have hText :
      (Datum.list [.missing]).toText = .ok "None" := by
    rfl
  rcases satisfies_iff_cuts hPlain hWild with
    ⟨hValue, hDatum, -⟩
  exact ⟨hPlain, hWild, hValue _, hText, hDatum _ _ hText⟩

end Datum

end Spreadsheet
