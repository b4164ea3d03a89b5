import Spreadsheet.Proofs.Number.Leading
import Spreadsheet.Proofs.Number.Rounded
import Spreadsheet.Proofs.Number.Written
import Spreadsheet.Text.Blank

/-
  Literals of numbers.

  A text stands for a number if it is a literal between white
  space: nothing, a decimal, an infinity or a whole number in
  base 16, 8 or 2.  An alphabet says what white space and
  digits are; the one of JavaScript is not quite the one of
  coercion.  The texts of literals are those that are read as
  numerals, and they are read as what they denote.

  Key definitions include:
    * `Spreadsheet.Number.Alphabet`
    * `Spreadsheet.Number.Literal`
    * `Spreadsheet.Number.Literal.Denotes`
    * `Spreadsheet.Number.Reads`
    * `Spreadsheet.Number.Overlong`

  Main results:
    * `Spreadsheet.Number.numeral_of_denotes`
    * `Spreadsheet.Number.numeral_of_isGreat`
    * `Spreadsheet.Number.exists_literal_of_numeral`
-/

------------------------------------------------------------
-- Alphabets
------------------------------------------------------------

namespace Spreadsheet

namespace Number

/- Which characters are white space and which are digits. -/
structure Alphabet where
  isBlank : Char → Bool
  isDigit : Char → Bool

namespace Alphabet

/- White space and digits of every script. -/
def coercion : Alphabet :=
  ⟨Text.isBlank, Text.isDigit⟩

/- White space and line ends of JavaScript. -/
def scriptBlanks : List Nat :=
  [
    0x9, 0xa, 0xb, 0xc, 0xd, 0x20, 0xa0, 0x1680, 0x2000,
    0x2001, 0x2002, 0x2003, 0x2004, 0x2005, 0x2006, 0x2007,
    0x2008, 0x2009, 0x200a, 0x2028, 0x2029, 0x202f, 0x205f,
    0x3000, 0xfeff
  ]

/- These and the digits of ASCII. -/
def script : Alphabet :=
  ⟨fun c => scriptBlanks.contains c.toNat, Char.isDigit⟩

/- The separators, the next-line control and the byte mark. -/
def oddBlanks : List Nat :=
  [0x1c, 0x1d, 0x1e, 0x1f, 0x85, 0xfeff]

/- A character that is the same in both alphabets. -/
def Usual
    (c : Char) : Prop :=
  c.toNat ∉ oddBlanks ∧
    (Text.isDigit c = true → c.isDigit = true)

instance (c : Char) : Decidable (Usual c) :=
  inferInstanceAs (Decidable (_ ∧ _))

/- Elsewhere both have the same white space. -/
theorem isBlank_of_usual
    {c : Char}
    (hUsual : Usual c) :
    coercion.isBlank c = script.isBlank c := by
  have hCoercion :
      ∀ code ∈ Text.blanks,
        code ∈ oddBlanks ∨ code ∈ scriptBlanks := by
    decide
  have hScript :
      ∀ code ∈ scriptBlanks,
        code ∈ oddBlanks ∨ code ∈ Text.blanks := by
    decide
  rw [Bool.eq_iff_iff]
  change Text.blanks.contains c.toNat = true ↔
    scriptBlanks.contains c.toNat = true
  rw [List.contains_iff_mem, List.contains_iff_mem]
  exact
    ⟨fun hMember =>
      (hCoercion _ hMember).resolve_left hUsual.1,
    fun hMember => (hScript _ hMember).resolve_left hUsual.1⟩

/- And the same digits. -/
theorem isDigit_of_usual
    {c : Char}
    (hUsual : Usual c) :
    coercion.isDigit c = script.isDigit c := by
  rw [Bool.eq_iff_iff]
  exact ⟨hUsual.2, isDigit_of_ascii⟩

end Alphabet

end Number

end Spreadsheet

------------------------------------------------------------
-- Literals
------------------------------------------------------------

namespace Spreadsheet

namespace Number

/- What may stand between white space for a number. -/
inductive Literal where
  | empty
  | decimal (written : WrittenDecimal)
  | infinity (sign : WrittenSign)
  | radix (base : Nat) (mark : Char) (digits : List Char)
deriving DecidableEq, Repr

namespace Literal

def text :
    Literal → List Char
  | empty => []
  | decimal written => written.text
  | infinity sign => sign.text ++ "Infinity".toList
  | radix _ mark digits => '0' :: mark :: digits

/- A character is a digit in a base up to 16. -/
def InBase
    (base : Nat)
    (c : Char) : Prop :=
  ∃ digit, hexDigit? c = some digit ∧ digit < base

/- Digits out of those that are allowed, in their places. -/
inductive IsValid
    (isDigit : Char → Bool) :
    Literal → Prop
  | empty : IsValid isDigit empty
  | decimal
      {written : WrittenDecimal}
      (hValid : written.IsValid isDigit) :
      IsValid isDigit (decimal written)
  | infinity
      (sign : WrittenSign) :
      IsValid isDigit (infinity sign)
  | radix
      {base : Nat}
      {mark : Char}
      {digits : List Char}
      (hMark : base? mark = some base)
      (hDigits : ∀ c ∈ digits, InBase base c)
      (hSome : digits ≠ []) :
      IsValid isDigit (radix base mark digits)

/- The whole number that digits denote in a base. -/
def whole
    (base : Nat)
    (digits : List Char) :
    Nat :=
  Text.positional base (digits.filterMap hexDigit?)

/- A float is what a literal denotes, rounded if need be. -/
def Denotes
    (x : Float) :
    Literal → Prop
  | empty => x = 0
  | decimal written =>
      Rounds written.sign.isMinus written.magnitude.value x
  | infinity sign =>
      Binary.ofFloat x = .infinite sign.isMinus
  | radix base _ digits => Rounds false (whole base digits) x

/- A whole number beyond the floats. -/
def IsGreat :
    Literal → Prop
  | radix base _ digits => overflow ≤ whole base digits
  | _ => False

end Literal

/- A text is a literal between white space. -/
structure Surrounds
    (alphabet : Alphabet)
    (literal : Literal)
    (text : List Char) : Prop where
  isValid : literal.IsValid alphabet.isDigit
  between :
    ∃ before after,
      (∀ c ∈ before, alphabet.isBlank c = true) ∧
        (∀ c ∈ after, alphabet.isBlank c = true) ∧
        text = before ++ (literal.text ++ after)

/- A text stands for a float, by the rules of an alphabet. -/
def Reads
    (alphabet : Alphabet)
    (text : List Char)
    (x : Float) : Prop :=
  ∃ literal,
    Surrounds alphabet literal text ∧ literal.Denotes x

/- A text stands for a whole number beyond the floats. -/
def Overlong
    (alphabet : Alphabet)
    (text : List Char) : Prop :=
  ∃ literal,
    Surrounds alphabet literal text ∧ literal.IsGreat

end Number

end Spreadsheet

------------------------------------------------------------
-- Whole Numbers In Other Bases
------------------------------------------------------------

namespace Spreadsheet

namespace Number

open Literal (InBase)

variable {base n : Nat}
variable {digits text : List Char}

/- Digits are read one by one if all of them are in the base. -/
theorem mapM_inBase
    {values : List Nat} :
    digits.mapM
        (fun c => (hexDigit? c).filter (· < base)) =
          some values ↔
      (∀ c ∈ digits, InBase base c) ∧
        values = digits.filterMap hexDigit? := by
  induction digits generalizing values with
  | nil => simp [eq_comm]
  | cons c digits ih =>
      rw [List.mapM_cons, List.forall_mem_cons]
      cases hDigit : hexDigit? c with
      | none => simp [InBase, hDigit]
      | some digit =>
          have hIn : InBase base c ↔ digit < base := by
            simp [InBase, hDigit]
          rw [hIn, Option.filter_some,
            List.filterMap_cons_some hDigit]
          by_cases hBase : digit < base
          · rw [if_pos (decide_eq_true hBase)]
            simp only [Option.bind_eq_bind, Option.bind_some,
              Option.bind_eq_some_iff, ih, Option.pure_def,
              Option.some.injEq, hBase, true_and]
            constructor
            · rintro ⟨_, ⟨hDigits, rfl⟩, hValues⟩
              exact ⟨hDigits, hValues.symm⟩
            · rintro ⟨hDigits, hValues⟩
              exact ⟨_, ⟨hDigits, rfl⟩, hValues.symm⟩
          · rw [if_neg (by simpa using hBase)]
            simp [hBase]

/- Digits denote a number in a base. -/
theorem digitsInBase?_eq_some :
    digitsInBase? base digits = some n ↔
      digits ≠ [] ∧ (∀ c ∈ digits, InBase base c) ∧
        n = Literal.whole base digits := by
  unfold digitsInBase?
  rw [Option.ite_none_left_eq_some, Option.map_eq_some_iff,
    List.isEmpty_iff]
  simp only [mapM_inBase]
  constructor
  · rintro ⟨hSome, values, ⟨hDigits, rfl⟩, hValue⟩
    exact ⟨hSome, hDigits, hValue.symm⟩
  · rintro ⟨hSome, hDigits, hValue⟩
    exact ⟨hSome, _, ⟨hDigits, rfl⟩, hValue.symm⟩

/- The texts of whole numbers in another base. -/
theorem radix?_eq_some
    (isDigit : Char → Bool) :
    radix? text = some n ↔
      ∃ base mark digits,
        Literal.IsValid isDigit (.radix base mark digits) ∧
          text = Literal.text (.radix base mark digits) ∧
          n = Literal.whole base digits := by
  constructor
  · intro hRead
    unfold radix? at hRead
    split at hRead
    · rename_i mark digits
      rw [Option.bind_eq_some_iff] at hRead
      rcases hRead with ⟨base, hMark, hRead⟩
      rcases digitsInBase?_eq_some.mp hRead with
        ⟨hSome, hDigits, hValue⟩
      exact ⟨base, mark, digits,
        .radix hMark hDigits hSome, rfl, hValue⟩
    · cases hRead
  · rintro ⟨base, mark, digits, hValid, rfl, hValue⟩
    cases hValid with
    | radix hMark hDigits hSome =>
        rw [Literal.text, radix?, hMark, Option.bind_some]
        exact digitsInBase?_eq_some.mpr
          ⟨hSome, hDigits, hValue⟩

end Number

end Spreadsheet

------------------------------------------------------------
-- Numerals As Literals
------------------------------------------------------------

namespace Spreadsheet

namespace Number

open Literal (IsValid Denotes IsGreat)

variable {base : Nat}
variable {mark : Char}
variable {x : Float}
variable {literal : Literal}
variable {text : List Char}

/- An infinity is no decimal. -/
theorem decimal?_infinity
    (sign : WrittenSign) :
    decimal? (Literal.text (.infinity sign)) = none := by
  cases sign with
  | none => rfl
  | plus => rfl
  | minus => rfl

theorem mem_marks
    (hMark : base? mark = some base) :
    mark ∈ ['x', 'X', 'o', 'O', 'b', 'B'] := by
  unfold base? at hMark
  simp only [Bool.or_eq_true, decide_eq_true_eq] at hMark
  split_ifs at hMark with hX hO hB
  · rcases hX with rfl | rfl
    · decide
    · decide
  · rcases hO with rfl | rfl
    · decide
    · decide
  · rcases hB with rfl | rfl
    · decide
    · decide

/- A whole number in another base is neither of both. -/
theorem decimal?_radix
    (hMark : base? mark = some base)
    (digits : List Char) :
    decimal? ('0' :: mark :: digits) = none ∧
      infinity? ('0' :: mark :: digits) = none := by
  have hMarks := mem_marks hMark
  simp only [List.mem_cons, List.not_mem_nil, or_false]
    at hMarks
  rcases hMarks with rfl | rfl | rfl | rfl | rfl | rfl
  · exact ⟨rfl, rfl⟩
  · exact ⟨rfl, rfl⟩
  · exact ⟨rfl, rfl⟩
  · exact ⟨rfl, rfl⟩
  · exact ⟨rfl, rfl⟩
  · exact ⟨rfl, rfl⟩

/- The text of a whole number in another base is this number. -/
theorem numeral_radix
    {digits : List Char}
    (hValid :
      IsValid Text.isDigit (.radix base mark digits)) :
    numeral (Literal.text (.radix base mark digits)) =
      if exceeds (Literal.whole base digits) 1 then
        .tooGreat
      else
        .value (nearest false (Literal.whole base digits) 1) := by
  have hRadix :
      radix? (Literal.text (.radix base mark digits)) =
        some (Literal.whole base digits) :=
    (radix?_eq_some Text.isDigit).mpr
      ⟨base, mark, digits, hValid, rfl, rfl⟩
  cases hValid with
  | radix hMark hDigits hSome =>
      rcases decimal?_radix hMark digits with
        ⟨hDecimal, hInfinity⟩
      rw [Literal.text] at hRadix ⊢
      unfold numeral
      rw [hDecimal, hInfinity, hRadix]

/- A literal that is not too great is read as it denotes. -/
theorem numeral_of_denotes
    (hValid : literal.IsValid Text.isDigit)
    (hSome : literal ≠ .empty)
    (hDenotes : literal.Denotes x)
    (hSmall : ¬ literal.IsGreat) :
    numeral literal.text = .value x := by
  cases literal with
  | empty => exact (hSome rfl).elim
  | decimal written =>
      cases hValid with
      | decimal hValid =>
          have hFloat : x = written.float :=
            rounds_iff_ofDecimal.mp hDenotes
          unfold numeral
          rw [Literal.text, decimal?_written hValid, hFloat]
  | infinity sign =>
      have hMinus : -(1.0 / 0.0 : Float) = -1.0 / 0.0 := by
        apply Float.toBits_inj.mp
        decide +kernel
      have hFloat := eq_of_infinite hDenotes
      unfold numeral
      rw [decimal?_infinity, hFloat]
      cases sign with
      | none => rfl
      | plus => rfl
      | minus =>
          simp only [WrittenSign.isMinus, if_true]
          rw [← hMinus]
          rfl
  | radix base mark digits =>
      have hExceeds :
          ¬ exceeds (Literal.whole base digits) 1 = true :=
        fun hExceeds => hSmall ((exceeds_iff _).mp hExceeds)
      have hFloat :
          x = nearest false (Literal.whole base digits) 1 := by
        rw [← rounds_iff_nearest Nat.one_pos, Nat.cast_one,
          div_one]
        exact hDenotes
      rw [numeral_radix hValid, if_neg hExceeds, hFloat]

/- One that is too great is read as such. -/
theorem numeral_of_isGreat
    (hValid : literal.IsValid Text.isDigit)
    (hGreat : literal.IsGreat) :
    numeral literal.text = .tooGreat := by
  cases literal with
  | radix base mark digits =>
      rw [numeral_radix hValid,
        if_pos ((exceeds_iff _).mpr hGreat)]
  | _ => exact hGreat.elim

/- What is read as a numeral is a literal. -/
theorem exists_literal_of_numeral
    (hRead : numeral text ≠ .none) :
    ∃ literal : Literal,
      literal.IsValid Text.isDigit ∧ literal.text = text := by
  unfold numeral at hRead
  cases hDecimal : decimal? text with
  | some x =>
      rcases exists_written_of_decimal? hDecimal with
        ⟨written, hValid, hText, -⟩
      exact ⟨.decimal written, .decimal hValid, hText⟩
  | none =>
      cases hInfinity : infinity? text with
      | some x =>
          rcases exists_sign text with ⟨sign, hText, -⟩
          unfold infinity? at hInfinity
          rw [Option.ite_none_right_eq_some] at hInfinity
          rw [hInfinity.1] at hText
          exact ⟨.infinity sign, .infinity sign, hText.symm⟩
      | none =>
          cases hRadix : radix? text with
          | some n =>
              rcases (radix?_eq_some Text.isDigit).mp hRadix
                with ⟨base, mark, digits, hValid, hText, -⟩
              exact ⟨_, hValid, hText.symm⟩
          | none =>
              rw [hDecimal, hInfinity, hRadix] at hRead
              exact (hRead rfl).elim

/- Each literal denotes a float. -/
theorem Literal.exists_denotes
    (literal : Literal) :
    ∃ x, literal.Denotes x := by
  cases literal with
  | empty => exact ⟨0, rfl⟩
  | decimal written =>
      exact ⟨_, rounds_ofDecimal written.sign.isMinus
        written.magnitude⟩
  | infinity sign =>
      have hReading :
          ∀ negative : Bool,
            Binary.ofFloat
                (if negative then -1.0 / 0.0
                  else 1.0 / 0.0) =
              .infinite negative := by
        decide +kernel
      exact ⟨_, hReading sign.isMinus⟩
  | radix base mark digits =>
      have hRounds :=
        rounds_nearest false (Literal.whole base digits)
          Nat.one_pos
      rw [Nat.cast_one, div_one] at hRounds
      exact ⟨_, hRounds⟩

end Number

end Spreadsheet
