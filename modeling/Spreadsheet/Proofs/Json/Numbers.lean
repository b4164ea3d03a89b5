import Mathlib.Data.List.Basic
import Spreadsheet.Json.Reading
import Spreadsheet.Number.Layout
import Spreadsheet.Proofs.Text.Digits
import Spreadsheet.Proofs.Text.Stretch
import Spreadsheet.Proofs.Text.Visible

/-
  Numbers read back.

  A number is read up to the comma or bracket behind it.  One
  without places and exponent is an integer, every other one a
  float: the nearest to what its digits denote.

  Key definitions include:
    * `Spreadsheet.Json.Ends`
    * `Spreadsheet.Json.IsReadable`

  Main results:
    * `Spreadsheet.Json.number_withSign`
    * `Spreadsheet.Json.scalar_integer`
-/

------------------------------------------------------------
-- Parts Of Numbers
------------------------------------------------------------

namespace Spreadsheet

namespace Json

open Text (IsWhole)

/- What follows a document is a comma, a bracket or nothing. -/
def Ends
    (rest : List Char) : Prop :=
  ∀ c ∈ rest.head?, c = ',' ∨ c = ']' ∨ c = '\x7d'

theorem Ends.nil : Ends [] :=
  fun _ hHead => nomatch hHead

theorem Ends.comma
    (rest : List Char) :
    Ends (',' :: rest) := by
  rintro _ ⟨rfl⟩
  exact .inl rfl

theorem Ends.bracket
    (rest : List Char) :
    Ends (']' :: rest) := by
  rintro _ ⟨rfl⟩
  exact .inr (.inl rfl)

theorem Ends.brace
    (rest : List Char) :
    Ends ('\x7d' :: rest) := by
  rintro _ ⟨rfl⟩
  exact .inr (.inr rfl)

theorem Ends.not_digit
    {rest : List Char}
    (hEnds : Ends rest) :
    ∀ c ∈ rest.head?, c.isDigit = false := by
  intro c hHead
  rcases hEnds c hHead with rfl | rfl | rfl
  · decide
  · decide
  · decide

/- Digits are read up to what is none. -/
theorem digitsOf_append
    {digits rest : List Char}
    (hDigits : ∀ c ∈ digits, c.isDigit = true)
    (hRest : ∀ c ∈ rest.head?, c.isDigit = false) :
    digitsOf (digits ++ rest) = (digits, rest) := by
  unfold digitsOf
  rw [Text.isAsciiDigit_eq,
    Text.takeWhile_append_stop hDigits hRest,
    Text.dropWhile_append_stop hDigits hRest]

theorem wholePart_append
    {digits rest : List Char}
    (hWhole : IsWhole digits)
    (hRest : ∀ c ∈ rest.head?, c.isDigit = false) :
    wholePart (digits ++ rest) = (digits, rest) := by
  rcases hWhole.zero_alone with rfl | hHead
  · rfl
  · have hDigits := digitsOf_append hWhole.isDigit hRest
    cases digits with
    | nil => exact (hWhole.ne_nil rfl).elim
    | cons c digits =>
        rw [List.cons_append] at hDigits ⊢
        rw [wholePart, hDigits]
        exact fun _ hSame =>
          (hHead c rfl (List.cons.inj hSame).1).elim

/- There are no places where there is no point. -/
theorem fraction_of_no_point
    {rest : List Char}
    (hRest : ∀ c ∈ rest.head?, c ≠ '.') :
    fraction rest = ([], rest) := by
  cases rest with
  | nil => rfl
  | cons c rest =>
      rw [fraction]
      exact fun _ hSame =>
        (hRest c rfl (List.cons.inj hSame).1).elim

theorem fraction_append
    {places rest : List Char}
    (hPlaces : ∀ c ∈ places, c.isDigit = true)
    (hSome : places ≠ [])
    (hRest : ∀ c ∈ rest.head?, c.isDigit = false) :
    fraction ('.' :: places ++ rest) = (places, rest) := by
  have hEmpty : places.isEmpty = false :=
    List.isEmpty_eq_false_iff.mpr hSome
  simp only [List.cons_append, fraction,
    digitsOf_append hPlaces hRest, hEmpty,
    Bool.false_eq_true, if_false]

/- There is no exponent in front of a comma or a bracket. -/
theorem exponent_of_ends
    {rest : List Char}
    (hEnds : Ends rest) :
    exponent rest = (none, rest) := by
  cases rest with
  | nil => rfl
  | cons c rest =>
      rcases hEnds c rfl with rfl | rfl | rfl
      · rfl
      · rfl
      · rfl

/- A sign and digits behind the mark are the exponent. -/
theorem exponent_append
    {digits rest : List Char}
    (hDigits : ∀ c ∈ digits, c.isDigit = true)
    (hSome : digits ≠ [])
    (hRest : ∀ c ∈ rest.head?, c.isDigit = false)
    (negative : Bool) :
    exponent
        ('e' :: (if negative then '-' else '+') ::
          digits ++ rest) =
      (some (if negative then
          -(Text.decimalValue digits : Int)
        else
          Text.decimalValue digits), rest) := by
  have hEmpty : digits.isEmpty = false :=
    List.isEmpty_eq_false_iff.mpr hSome
  cases negative with
  | false =>
      simp [exponent, signedDigits,
        digitsOf_append hDigits hRest, hEmpty]
  | true =>
      simp [exponent, signedDigits,
        digitsOf_append hDigits hRest, hEmpty]

end Json

end Spreadsheet

------------------------------------------------------------
-- Signs
------------------------------------------------------------

namespace Spreadsheet

namespace Json

open Number.Layout (withSign)
open Text (IsWhole)

/- A character that begins a word for a number or a number. -/
def BeginsNumber
    (c : Char) : Prop :=
  (c = '-' ∨ c.isDigit = true) ∨ c = 'N' ∨ c = 'I'

theorem BeginsNumber.ne
    {c : Char}
    (hBegins : BeginsNumber c)
    (other : Char)
    (hDigit : other.isDigit = false)
    (hOthers : other ∉ ['-', 'N', 'I']) :
    c ≠ other := by
  rintro rfl
  rcases hBegins with (rfl | hBegins) | rfl | rfl
  · exact hOthers (by decide)
  · rw [hBegins] at hDigit
    cases hDigit
  · exact hOthers (by decide)
  · exact hOthers (by decide)

theorem BeginsNumber.not_blank
    {c : Char}
    (hBegins : BeginsNumber c) :
    isBlank c = false := by
  simp [isBlank, hBegins.ne ' ' (by decide) (by decide),
    hBegins.ne '\t' (by decide) (by decide),
    hBegins.ne '\n' (by decide) (by decide),
    hBegins.ne '\r' (by decide) (by decide)]

theorem BeginsNumber.not_opening
    {c : Char}
    (hBegins : BeginsNumber c) :
    c ∉ ['"', '[', '\x7b'] := by
  simp only [List.mem_cons, List.not_mem_nil, or_false,
    not_or]
  exact ⟨hBegins.ne '"' (by decide) (by decide),
    hBegins.ne '[' (by decide) (by decide),
    hBegins.ne '\x7b' (by decide) (by decide)⟩

/- A number begins with its sign or with a digit. -/
theorem head_withSign
    {digits : List Char}
    (hWhole : IsWhole digits)
    (negative : Bool)
    (rest : List Char) :
    ∃ c others,
      withSign negative (digits ++ rest) = c :: others ∧
        (c = '-' ∨ c.isDigit = true) := by
  rcases hWhole.head with ⟨c, others, rfl, hDigit⟩
  cases negative with
  | false => exact ⟨c, others ++ rest, rfl, .inr hDigit⟩
  | true => exact ⟨'-', _, rfl, .inl rfl⟩

/- A number is no word. -/
theorem scalar_of_head
    {c : Char}
    (hHead : c = '-' ∨ c.isDigit = true)
    (rest : List Char) :
    scalar (c :: rest) = number (c :: rest) := by
  have hOther :
      ∀ letter, letter ≠ '-' → letter.isDigit = false →
        letter ≠ c := by
    rintro letter hSign hDigit rfl
    rcases hHead with rfl | hHead
    · exact hSign rfl
    · rw [hHead] at hDigit
      cases hDigit
  have hNone :
      (words.findSome? fun entry =>
        (afterWord? entry.1 (c :: rest)).map fun rest =>
          (entry.2, rest)) = none := by
    simp [words, afterWord?,
      hOther 'n' (by decide) (by decide),
      hOther 't' (by decide) (by decide),
      hOther 'f' (by decide) (by decide),
      hOther 'N' (by decide) (by decide),
      hOther 'I' (by decide) (by decide)]
  rw [scalar, hNone]

/- A number is read behind its sign. -/
theorem number_withSign
    {digits : List Char}
    (hWhole : IsWhole digits)
    (negative : Bool)
    (rest : List Char) :
    number (withSign negative (digits ++ rest)) =
      unsigned negative (digits ++ rest) := by
  rcases hWhole.head with ⟨c, others, rfl, hDigit⟩
  cases negative with
  | false =>
      rw [withSign, if_neg (by decide), List.cons_append,
        number]
      rintro _ ⟨rfl⟩
      exact absurd hDigit (by decide)
  | true =>
      have hOther : ('I' == c) = false := by
        rw [beq_eq_false_iff_ne]
        rintro rfl
        exact absurd hDigit (by decide)
      have hWord :
          afterWord? "Infinity".toList
            (c :: others ++ rest) = none := by
        simp [afterWord?, List.isPrefixOf, hOther]
      rw [withSign, if_pos rfl, number, hWord]

end Json

end Spreadsheet

------------------------------------------------------------
-- Integers
------------------------------------------------------------

namespace Spreadsheet

namespace Json

open Number.Layout (withSign)
open Text (IsWhole)

/- An integer has no more digits than are read. -/
def IsReadable
    (n : Int) : Prop :=
  (Text.decimal n.natAbs).length ≤ Text.longestNumeral

instance (n : Int) : Decidable (IsReadable n) :=
  inferInstanceAs (Decidable (_ ≤ _))

/- An integer is written as its size behind its sign. -/
theorem integer_eq
    (n : Int) :
    Text.integer n =
      withSign (decide (n < 0)) (Text.decimal n.natAbs) := by
  cases n with
  | ofNat n => rfl
  | negSucc n =>
      have hNegative : Int.negSucc n < 0 :=
        Int.negSucc_lt_zero n
      rw [withSign, decide_eq_true hNegative, if_pos rfl]
      rfl

/- An integer begins like a number. -/
theorem head_integer
    (n : Int) :
    ∃ c rest, Text.integer n = c :: rest ∧
      BeginsNumber c := by
  rcases head_withSign (.decimal n.natAbs) (decide (n < 0))
      [] with
    ⟨c, rest, hText, hHead⟩
  rw [List.append_nil, ← integer_eq] at hText
  exact ⟨c, rest, hText, .inl hHead⟩

/- Digits alone are an integer, unless they are too many. -/
theorem unsigned_whole
    {digits : List Char}
    (hWhole : IsWhole digits)
    (negative : Bool)
    {rest : List Char}
    (hEnds : Ends rest) :
    unsigned negative (digits ++ rest) =
      if Text.longestNumeral < digits.length then
        .error (.tooManyDigits digits.length)
      else
        .ok (.whole (if negative then
            -(Text.decimalValue digits : Int)
          else
            Text.decimalValue digits), rest) := by
  have hPoint : ∀ c ∈ rest.head?, c ≠ '.' := by
    intro c hHead
    rcases hEnds c hHead with rfl | rfl | rfl
    · decide
    · decide
    · decide
  have hEmpty : digits.isEmpty = false :=
    List.isEmpty_eq_false_iff.mpr hWhole.ne_nil
  unfold unsigned
  rw [wholePart_append hWhole hEnds.not_digit]
  simp only [fraction_of_no_point hPoint,
    exponent_of_ends hEnds, hEmpty, Bool.false_eq_true,
    if_false, List.isEmpty_nil, Option.isNone_none,
    Bool.and_self, if_true]

/- The digits of a number that are not too many are read. -/
theorem unsigned_decimal
    {n : Nat}
    (hReadable : (Text.decimal n).length ≤ Text.longestNumeral)
    (negative : Bool)
    {rest : List Char}
    (hEnds : Ends rest) :
    unsigned negative (Text.decimal n ++ rest) =
      .ok (.whole (if negative then -(n : Int) else n),
        rest) := by
  rw [unsigned_whole (.decimal n) negative hEnds,
    if_neg (Nat.not_lt.mpr hReadable),
    Text.decimalValue_decimal]

theorem withSign_append
    (negative : Bool)
    (magnitude rest : List Char) :
    withSign negative magnitude ++ rest =
      withSign negative (magnitude ++ rest) := by
  cases negative with
  | false => rfl
  | true => rfl

/- An integer is read back, up to what follows it. -/
theorem scalar_integer
    {n : Int}
    (hReadable : IsReadable n)
    {rest : List Char}
    (hEnds : Ends rest) :
    scalar (Text.integer n ++ rest) = .ok (.whole n, rest) := by
  have hValue :
      (if decide (n < 0) = true then
          -(n.natAbs : Int) else n.natAbs) = n := by
    simp only [decide_eq_true_eq]
    split
    · omega
    · omega
  rw [integer_eq, withSign_append]
  rcases head_withSign (.decimal n.natAbs) (decide (n < 0))
      rest with
    ⟨c, others, hText, hHead⟩
  rw [hText, scalar_of_head hHead, ← hText,
    number_withSign (.decimal _),
    unsigned_decimal hReadable _ hEnds, hValue]

/- A digit is visible. -/
theorem visible_of_isDigit
    {c : Char}
    (hDigit : c.isDigit = true) :
    Text.Visible c := by
  have hCode := Char.isDigit_iff_toNat.mp hDigit
  have hFirst : '0'.toNat = 0x30 := rfl
  have hLast : '9'.toNat = 0x39 := rfl
  unfold Text.Visible
  omega

theorem visible_of_mem_integer
    {n : Int}
    {c : Char}
    (hMember : c ∈ Text.integer n) :
    Text.Visible c := by
  have hDecimal :
      ∀ m, c ∈ Text.decimal m → Text.Visible c :=
    fun m hDigit =>
      visible_of_isDigit (Text.isDigit_of_mem_decimal hDigit)
  cases n with
  | ofNat m => exact hDecimal m hMember
  | negSucc m =>
      rcases List.mem_cons.mp hMember with rfl | hDigit
      · decide
      · exact hDecimal (m + 1) hDigit

end Json

end Spreadsheet
