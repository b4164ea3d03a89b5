import Mathlib.Data.List.Basic
import Spreadsheet.Json.Reading
import Spreadsheet.Json.Written
import Spreadsheet.Proofs.Text.Visible

/-
  Strings read back.

  A character of a string is written as itself, as one escape
  or as two, and what is read for it is joined to it again,
  whatever stands behind it.  So a text is read back from its
  string, which has visible characters only.

  Key definitions include:
    * `Spreadsheet.Json.Joins`

  Main results:
    * `Spreadsheet.Json.stringFrom_escaped`
    * `Spreadsheet.Json.string_quoted`
    * `Spreadsheet.Json.visible_of_mem_quoted`
-/

------------------------------------------------------------
-- Code Units
------------------------------------------------------------

namespace Spreadsheet

namespace Json

open Text (hexDigits)

/- A hexadecimal digit has its value. -/
theorem hexDigit?_digitChar
    {d : Nat}
    (hDigit : d < 16) :
    hexDigit? d.digitChar = some d := by
  have hAll : ∀ d < 16, hexDigit? d.digitChar = some d := by
    decide
  exact hAll d hDigit

/- In a wider field the last digit stands behind the others. -/
theorem hexDigits_succ
    {width : Nat}
    (hWidth : 0 < width)
    (n : Nat) :
    hexDigits (width + 1) n =
      hexDigits width (n / 16) ++ [(n % 16).digitChar] := by
  unfold hexDigits
  simp only
  by_cases hSmall : n < 16
  · have hZeros :
        List.replicate (width - 1) '0' ++ ['0'] =
          List.replicate width '0' := by
      rw [← List.replicate_succ', Nat.sub_add_cancel hWidth]
    rw [Nat.toDigits_of_lt_base hSmall,
      Nat.div_eq_of_lt hSmall, Nat.mod_eq_of_lt hSmall,
      List.length_singleton, Nat.add_sub_cancel, ← hZeros]
    rfl
  · rw [Nat.toDigits_of_base_le (by decide) (by omega),
      List.length_append, List.length_singleton,
      Nat.add_sub_add_right, List.append_assoc]

/- A code unit is written with its four digits. -/
theorem hexDigits_unit
    {n : Nat}
    (hUnit : n < 0x10000) :
    hexDigits 4 n =
      [(n / 16 / 16 / 16).digitChar,
        (n / 16 / 16 % 16).digitChar,
        (n / 16 % 16).digitChar, (n % 16).digitChar] := by
  have hFirst :
      hexDigits 1 (n / 16 / 16 / 16) =
        [(n / 16 / 16 / 16).digitChar] := by
    unfold hexDigits
    simp only
    rw [Nat.toDigits_of_lt_base (by omega)]
    rfl
  rw [hexDigits_succ (by decide), hexDigits_succ (by decide),
    hexDigits_succ (by decide), hFirst]
  rfl

/- An escape is read as the code unit that it was made of. -/
theorem stringFrom_escapedUnit
    {n : Nat}
    (hUnit : n < 0x10000)
    (done : List Unit)
    (rest : List Char) :
    stringFrom done (escapedUnit n ++ rest) =
      stringFrom (.code n :: done) rest := by
  rw [escapedUnit, hexDigits_unit hUnit]
  simp only [List.cons_append, List.nil_append]
  rw [stringFrom, unit?, hexDigit?_digitChar (by omega),
    hexDigit?_digitChar (by omega),
    hexDigit?_digitChar (by omega),
    hexDigit?_digitChar (by omega)]
  simp only [Option.bind_eq_bind, Option.bind_some,
    Option.pure_def]
  congr 3
  omega

end Json

end Spreadsheet

------------------------------------------------------------
-- Characters
------------------------------------------------------------

namespace Spreadsheet

namespace Json

/- What was read is joined to a text, whatever follows it. -/
def Joins
    (units : List Unit)
    (text : List Char) : Prop :=
  ∀ others,
    joinUnits (units ++ others) =
      text.map Unit.char ++ joinUnits others

theorem Joins.append
    {units others : List Unit}
    {first rest : List Char}
    (hFirst : Joins units first)
    (hRest : Joins others rest) :
    Joins (units ++ others) (first ++ rest) := by
  intro last
  rw [List.append_assoc, hFirst, hRest, List.map_append,
    List.append_assoc]

theorem joins_char
    (c : Char) :
    Joins [.char c] [c] :=
  fun _ => rfl

/- The code of a character is none of those made for pairs. -/
theorem not_surrogate
    (c : Char) :
    c.toNat < 0xd800 ∨ 0xdfff < c.toNat := by
  rcases c.valid with hBelow | ⟨hAbove, -⟩
  · exact .inl hBelow
  · exact .inr hAbove

/- Beyond the greatest code there is no character. -/
theorem toNat_lt
    (c : Char) :
    c.toNat < 0x110000 := by
  rcases c.valid with hBelow | ⟨-, hAbove⟩
  · exact Nat.lt_trans hBelow (by decide)
  · exact hAbove

/- The code of a character stands alone for it. -/
theorem joins_code
    (c : Char) :
    Joins [.code c.toNat] [c] := by
  have hSurrogate := not_surrogate c
  have hHigh : isHighUnit c.toNat = false := by
    simp only [isHighUnit, Bool.and_eq_false_iff,
      decide_eq_false_iff_not]
    omega
  have hLow : isLowUnit c.toNat = false := by
    simp only [isLowUnit, Bool.and_eq_false_iff,
      decide_eq_false_iff_not]
    omega
  have hSingle : single c.toNat = .char c := by
    rw [single, hHigh, hLow]
    exact congrArg Unit.char (Char.ofNat_toNat c)
  intro others
  rw [List.map_singleton]
  rcases others with _ | ⟨_ | b, rest⟩
  · simp only [List.append_nil, joinUnits, hSingle]
  · simp only [List.singleton_append, joinUnits, hSingle]
  · simp only [List.singleton_append, joinUnits, hSingle,
      hHigh, Bool.false_and, Bool.false_eq_true, if_false]

/- A pair of code units stands for a character. -/
theorem joins_pair
    {c : Char}
    (hBeyond : 0x10000 ≤ c.toNat) :
    Joins
      [.code (0xd800 + (c.toNat - 0x10000) / 0x400),
        .code (0xdc00 + (c.toNat - 0x10000) % 0x400)]
      [c] := by
  have hLast : c.toNat < 0x110000 := toNat_lt c
  have hHigh :
      isHighUnit (0xd800 + (c.toNat - 0x10000) / 0x400) =
        true := by
    simp only [isHighUnit, Bool.and_eq_true,
      decide_eq_true_eq]
    omega
  have hLow :
      isLowUnit (0xdc00 + (c.toNat - 0x10000) % 0x400) =
        true := by
    simp only [isLowUnit, Bool.and_eq_true,
      decide_eq_true_eq]
    omega
  have hCode :
      0x10000 +
          (0xd800 + (c.toNat - 0x10000) / 0x400 - 0xd800) *
            0x400 +
          (0xdc00 + (c.toNat - 0x10000) % 0x400 - 0xdc00) =
        c.toNat := by
    omega
  intro others
  simp only [List.cons_append, List.nil_append, joinUnits,
    hHigh, hLow, Bool.and_self, if_true, hCode,
    Char.ofNat_toNat, List.map_cons, List.map_nil]

/- A character that is not escaped is read as it is. -/
theorem stringFrom_plain
    {c : Char}
    (hQuote : c ≠ '"')
    (hBackslash : c ≠ '\\')
    (hControl : 0x20 ≤ c.toNat)
    (done : List Unit)
    (rest : List Char) :
    stringFrom done (c :: rest) =
      stringFrom (.char c :: done) rest := by
  have hStop : ¬(c = '\\' || decide (c.toNat < 0x20)) := by
    simp only [hBackslash, decide_false, Bool.false_or,
      decide_eq_true_eq]
    omega
  rw [stringFrom, if_neg hStop]
  · exact fun hSame => hQuote hSame
  · exact fun _ _ _ _ _ hSame => (hBackslash hSame).elim
  · exact fun _ _ hSame => (hBackslash hSame).elim

/- An escape of one letter is read as its character. -/
theorem stringFrom_short
    {letter c : Char}
    (hLetter : letter ≠ 'u')
    (hShort : shortEscape? letter = some c)
    (done : List Unit)
    (rest : List Char) :
    stringFrom done ('\\' :: letter :: rest) =
      stringFrom (.char c :: done) rest := by
  rw [stringFrom, hShort]
  exact fun _ _ _ _ _ hSame => (hLetter hSame).elim

/- A character is read back, whatever stands behind it. -/
theorem stringFrom_escaped
    (c : Char)
    (done : List Unit)
    (rest : List Char) :
    ∃ units,
      stringFrom done (escaped c ++ rest) =
        stringFrom (units.reverse ++ done) rest ∧
      Joins units [c] := by
  have hShort :
      ∀ letter, letter ≠ 'u' →
        shortEscape? letter = some c →
        ∃ units,
          stringFrom done (['\\', letter] ++ rest) =
            stringFrom (units.reverse ++ done) rest ∧
          Joins units [c] :=
    fun letter hLetter hShort =>
      ⟨[.char c], stringFrom_short hLetter hShort done rest,
        joins_char c⟩
  unfold escaped
  split_ifs with hSelf hFeed hReturn hTab hBack hForm hPlain
  · simp only [Bool.or_eq_true, decide_eq_true_eq] at hSelf
    rcases hSelf with rfl | rfl
    · exact hShort '"' (by decide) rfl
    · exact hShort '\\' (by decide) rfl
  · exact hShort 'n' (by decide) (hFeed ▸ rfl)
  · exact hShort 'r' (by decide) (hReturn ▸ rfl)
  · exact hShort 't' (by decide) (hTab ▸ rfl)
  · have hChar : Char.ofNat 8 = c := by
      rw [← hBack, Char.ofNat_toNat]
    exact hShort 'b' (by decide) (hChar ▸ rfl)
  · have hChar : Char.ofNat 12 = c := by
      rw [← hForm, Char.ofNat_toNat]
    exact hShort 'f' (by decide) (hChar ▸ rfl)
  · simp only [Bool.or_eq_true, decide_eq_true_eq,
      not_or] at hSelf
    exact ⟨[.char c],
      stringFrom_plain hSelf.1 hSelf.2 hPlain.1 done rest,
      joins_char c⟩
  · unfold escapedCode
    split_ifs with hUnit
    · exact ⟨[.code c.toNat],
        stringFrom_escapedUnit hUnit done rest,
        joins_code c⟩
    · have hLast : c.toNat < 0x110000 := toNat_lt c
      refine ⟨_, ?_, joins_pair (by omega)⟩
      rw [List.append_assoc,
        stringFrom_escapedUnit (by omega),
        stringFrom_escapedUnit (by omega)]
      rfl

end Json

end Spreadsheet

------------------------------------------------------------
-- Texts
------------------------------------------------------------

namespace Spreadsheet

namespace Json

theorem stringFrom_flatMap_escaped
    (text : List Char)
    (done : List Unit)
    (rest : List Char) :
    ∃ units,
      stringFrom done (text.flatMap escaped ++ rest) =
        stringFrom (units.reverse ++ done) rest ∧
      Joins units text := by
  induction text generalizing done with
  | nil => exact ⟨[], rfl, fun _ => rfl⟩
  | cons c text ih =>
      rcases stringFrom_escaped c done
          (text.flatMap escaped ++ rest) with
        ⟨first, hFirst, hJoins⟩
      rcases ih (first.reverse ++ done) with
        ⟨others, hOthers, hJoinsRest⟩
      refine ⟨first ++ others, ?_, hJoins.append hJoinsRest⟩
      rw [List.flatMap_cons, List.append_assoc, hFirst,
        hOthers, List.reverse_append, List.append_assoc]

/- Characters are a text. -/
theorem keyOf_char
    (text : List Char) :
    keyOf (text.map Unit.char) =
      .text (String.ofList text) := by
  have hText :
      (text.map Unit.char).mapM Unit.char? = some text := by
    induction text with
    | nil => rfl
    | cons c rest ih =>
        rw [List.map_cons, List.mapM_cons, ih]
        rfl
  rw [keyOf, hText]

/- A text is read back from behind its opening quote. -/
theorem string_quoted
    (s : String)
    (rest : List Char) :
    string (s.toList.flatMap escaped ++ '"' :: rest) =
      .ok (.text s, rest) := by
  rcases stringFrom_flatMap_escaped s.toList []
      ('"' :: rest) with
    ⟨units, hUnits, hJoins⟩
  have hText : joinUnits units = s.toList.map Unit.char := by
    simpa [joinUnits] using hJoins []
  rw [string, hUnits, List.append_nil, stringFrom]
  simp only
  rw [List.reverse_reverse, hText, keyOf_char,
    String.ofList_toList]

end Json

end Spreadsheet

------------------------------------------------------------
-- Visible Characters
------------------------------------------------------------

namespace Spreadsheet

namespace Json

open Text (Visible)

theorem visible_of_mem_escapedUnit
    {n : Nat}
    (hUnit : n < 0x10000)
    {c : Char}
    (hMember : c ∈ escapedUnit n) :
    Visible c := by
  have hDigit : ∀ d < 16, Visible d.digitChar := by decide
  rw [escapedUnit, hexDigits_unit hUnit] at hMember
  simp only [List.mem_cons, List.not_mem_nil,
    or_false] at hMember
  rcases hMember with rfl | rfl | rfl | rfl | rfl | rfl
  · decide
  · decide
  · exact hDigit _ (by omega)
  · exact hDigit _ (by omega)
  · exact hDigit _ (by omega)
  · exact hDigit _ (by omega)

/- Whatever a character is, what is written for it shows. -/
theorem visible_of_mem_escaped
    {c written : Char}
    (hMember : written ∈ escaped c) :
    Visible written := by
  have hShort :
      ∀ letter, Visible letter →
        written ∈ ['\\', letter] → Visible written := by
    intro letter hLetter hMember
    simp only [List.mem_cons, List.not_mem_nil,
      or_false] at hMember
    rcases hMember with rfl | rfl
    · decide
    · exact hLetter
  unfold escaped at hMember
  split_ifs at hMember with hSelf hFeed hReturn hTab hBack
    hForm hPlain
  · simp only [Bool.or_eq_true, decide_eq_true_eq] at hSelf
    refine hShort c ?_ hMember
    rcases hSelf with rfl | rfl
    · decide
    · decide
  · exact hShort 'n' (by decide) hMember
  · exact hShort 'r' (by decide) hMember
  · exact hShort 't' (by decide) hMember
  · exact hShort 'b' (by decide) hMember
  · exact hShort 'f' (by decide) hMember
  · rw [List.mem_singleton.mp hMember]
    exact hPlain
  · have hLast : c.toNat < 0x110000 := toNat_lt c
    unfold escapedCode at hMember
    split_ifs at hMember with hUnit
    · exact visible_of_mem_escapedUnit hUnit hMember
    · rcases List.mem_append.mp hMember with hHigh | hLow
      · exact visible_of_mem_escapedUnit (by omega) hHigh
      · exact visible_of_mem_escapedUnit (by omega) hLow

/- A string has visible characters only. -/
theorem visible_of_mem_quoted
    {text : List Char}
    {c : Char}
    (hMember : c ∈ quoted text) :
    Visible c := by
  simp only [quoted, List.cons_append, List.mem_cons,
    List.mem_append, List.mem_flatMap, List.not_mem_nil,
    or_false] at hMember
  rcases hMember with rfl | ⟨_, -, hEscaped⟩ | rfl
  · decide
  · exact visible_of_mem_escaped hEscaped
  · decide

end Json

end Spreadsheet
