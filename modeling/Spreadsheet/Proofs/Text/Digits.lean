import Mathlib.Algebra.Group.Nat.Defs
import Mathlib.Data.List.Basic
import Spreadsheet.Text.Digit

/-
  Numbers in plain notation.

  The digits of a number denote this number, and only zero is
  written with a zero in front.

  Key definitions include:
    * `Spreadsheet.Text.IsWhole`

  Main results:
    * `Spreadsheet.Text.decimalValue_append`
    * `Spreadsheet.Text.decimalValue_decimal`
    * `Spreadsheet.Text.decimal_mul_ten_pow`
    * `Spreadsheet.Text.head_decimal_ne_zero`
-/

------------------------------------------------------------
-- Digits Of ASCII
------------------------------------------------------------

namespace Spreadsheet

namespace Text

@[simp] theorem isAsciiDigit_eq :
    isAsciiDigit = Char.isDigit := by
  funext c
  rw [Bool.eq_iff_iff]
  unfold isAsciiDigit asciiDigit?
  split
  · rename_i hDigit
    simpa [Char.isDigit, UInt32.le_iff_toNat_le] using hDigit
  · rename_i hOther
    simpa [Char.isDigit, UInt32.le_iff_toNat_le] using hOther

/- The digits of ASCII come first among those of all scripts. -/
theorem digit?_of_isDigit
    {c : Char}
    (hDigit : c.isDigit = true) :
    digit? c = some (c.toNat - '0'.toNat) := by
  have hFirst : 0x30 ≤ c.toNat ∧ c.toNat ≤ 0x30 + 9 := by
    simpa [Char.isDigit, UInt32.le_iff_toNat_le] using hDigit
  simp [digit?, scriptZeros, hFirst]

/- The notation of a number has nothing but digits. -/
theorem isDigit_of_mem_decimal
    {n : Nat}
    {c : Char}
    (hMember : c ∈ decimal n) :
    c.isDigit = true :=
  Nat.isDigit_of_mem_toDigits (by decide) (by decide) hMember

theorem decimal_ne_nil
    (n : Nat) :
    decimal n ≠ [] :=
  List.ne_nil_of_length_pos Nat.length_toDigits_pos

end Text

end Spreadsheet

------------------------------------------------------------
-- Values Of Notations
------------------------------------------------------------

namespace Spreadsheet

namespace Text

/- Digits of ASCII denote what they denote as characters. -/
theorem decimalValue_eq
    {digits : List Char}
    (hDigits : ∀ c ∈ digits, c.isDigit = true) :
    decimalValue digits = Nat.ofDigitChars 10 digits 0 := by
  have hFold :
      ∀ first,
        (digits.filterMap digit?).foldl
            (fun n d => n * 10 + d) first =
          Nat.ofDigitChars 10 digits first := by
    induction digits with
    | nil => exact fun _ => rfl
    | cons c rest ih =>
        rw [List.forall_mem_cons] at hDigits
        intro first
        rw [List.filterMap_cons, digit?_of_isDigit hDigits.1,
          Nat.ofDigitChars_cons, Nat.mul_comm 10 first]
        exact ih hDigits.2 _
  exact hFold 0

/- Digits behind others leave them as many places in front. -/
theorem decimalValue_append
    {first rest : List Char}
    (hFirst : ∀ c ∈ first, c.isDigit = true)
    (hRest : ∀ c ∈ rest, c.isDigit = true) :
    decimalValue (first ++ rest) =
      decimalValue first * 10 ^ rest.length +
        decimalValue rest := by
  have hAll : ∀ c ∈ first ++ rest, c.isDigit = true := by
    rw [List.forall_mem_append]
    exact ⟨hFirst, hRest⟩
  rw [decimalValue_eq hAll, decimalValue_eq hFirst,
    decimalValue_eq hRest, Nat.ofDigitChars_append,
    Nat.ofDigitChars_eq_ofDigitChars_zero, Nat.mul_comm]

/- A number is denoted by its notation. -/
@[simp] theorem decimalValue_decimal
    (n : Nat) :
    decimalValue (decimal n) = n := by
  rw [decimalValue_eq fun _ => isDigit_of_mem_decimal]
  exact Nat.ofDigitChars_ten_toDigits

theorem isDigit_of_mem_zeros
    {count : Nat}
    {c : Char}
    (hMember : c ∈ List.replicate count '0') :
    c.isDigit = true := by
  rw [List.eq_of_mem_replicate hMember]
  rfl

/- Zeros alone are of no value. -/
theorem decimalValue_zeros
    (count : Nat) :
    decimalValue (List.replicate count '0') = 0 := by
  induction count with
  | zero => rfl
  | succ count ih =>
      rw [List.replicate_succ', decimalValue_append
        (fun _ => isDigit_of_mem_zeros) (by simp), ih]
      decide

/- Zeros in front of digits are of no value. -/
theorem decimalValue_zeros_append
    (count : Nat)
    {digits : List Char}
    (hDigits : ∀ c ∈ digits, c.isDigit = true) :
    decimalValue (List.replicate count '0' ++ digits) =
      decimalValue digits := by
  rw [decimalValue_append (fun _ => isDigit_of_mem_zeros)
    hDigits, decimalValue_zeros, Nat.zero_mul, Nat.zero_add]

/- Each zero behind digits is a power of ten. -/
theorem decimalValue_append_zeros
    {digits : List Char}
    (hDigits : ∀ c ∈ digits, c.isDigit = true)
    (count : Nat) :
    decimalValue (digits ++ List.replicate count '0') =
      decimalValue digits * 10 ^ count := by
  rw [decimalValue_append hDigits
    (fun _ => isDigit_of_mem_zeros), decimalValue_zeros,
    List.length_replicate, Nat.add_zero]

/- A power of ten is written as zeros behind the digits. -/
theorem decimal_mul_ten_pow
    {n : Nat}
    (hPositive : 0 < n)
    (count : Nat) :
    decimal (n * 10 ^ count) =
      decimal n ++ List.replicate count '0' := by
  induction count with
  | zero =>
      rw [Nat.pow_zero, Nat.mul_one, List.replicate_zero,
        List.append_nil]
  | succ count ih =>
      have hSome : 0 < n * 10 ^ count :=
        Nat.mul_pos hPositive (Nat.pow_pos (by decide))
      have hMore :=
        Nat.toDigits_of_base_le (b := 10)
          (n := n * 10 ^ count * 10) (by decide) (by omega)
      rw [Nat.mul_div_cancel _ (by decide), Nat.mul_mod_left]
        at hMore
      rw [Nat.pow_succ, ← Nat.mul_assoc, List.replicate_succ',
        ← List.append_assoc, ← ih]
      exact hMore

/- No positive number is written with a zero in front. -/
theorem head_decimal_ne_zero
    {n : Nat}
    (hPositive : 0 < n) :
    ∀ c ∈ (decimal n).head?, c ≠ '0' := by
  induction n using Nat.strongRecOn with
  | ind n ih =>
      by_cases hSmall : n < 10
      · rw [decimal, Nat.toDigits_of_lt_base hSmall]
        rintro c ⟨rfl⟩ hZero
        have hValue := congrArg Char.toNat hZero
        rw [Nat.toNat_digitChar_of_lt_ten hSmall] at hValue
        change 48 + n = 48 at hValue
        omega
      · have hMore :=
          Nat.toDigits_of_base_le (b := 10) (n := n)
            (by decide) (by omega)
        have hHead :
            (decimal n).head? = (decimal (n / 10)).head? := by
          rw [decimal, hMore, List.head?_append_of_ne_nil]
          · rfl
          · exact decimal_ne_nil (n / 10)
        rw [hHead]
        exact ih (n / 10) (by omega) (by omega)

end Text

end Spreadsheet

------------------------------------------------------------
-- Whole Parts
------------------------------------------------------------

namespace Spreadsheet

namespace Text

/- Digits without zeros in front, unless zero is all. -/
structure IsWhole
    (digits : List Char) : Prop where
  isDigit : ∀ c ∈ digits, c.isDigit = true
  ne_nil : digits ≠ []
  zero_alone : digits = ['0'] ∨ ∀ c ∈ digits.head?, c ≠ '0'

/- Digits behind a digit other than zero. -/
theorem IsWhole.of_head
    {c : Char}
    {rest : List Char}
    (hDigits : ∀ d ∈ c :: rest, d.isDigit = true)
    (hHead : c ≠ '0') :
    IsWhole (c :: rest) where
  isDigit := hDigits
  ne_nil := List.cons_ne_nil c rest
  zero_alone := by
    right
    rintro _ ⟨rfl⟩
    exact hHead

theorem IsWhole.decimal
    (n : Nat) :
    IsWhole (Text.decimal n) where
  isDigit _ := isDigit_of_mem_decimal
  ne_nil := decimal_ne_nil n
  zero_alone := by
    rcases Nat.eq_zero_or_pos n with rfl | hPositive
    · exact .inl rfl
    · exact .inr (head_decimal_ne_zero hPositive)

theorem IsWhole.head
    {digits : List Char}
    (hWhole : IsWhole digits) :
    ∃ c rest, digits = c :: rest ∧ c.isDigit = true := by
  rcases List.exists_cons_of_ne_nil hWhole.ne_nil with
    ⟨c, rest, rfl⟩
  exact ⟨c, rest, rfl, hWhole.isDigit c List.mem_cons_self⟩

end Text

end Spreadsheet
