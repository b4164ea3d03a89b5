import Spreadsheet.Number.Layout
import Spreadsheet.Proofs.Number.Shortest
import Spreadsheet.Proofs.Text.Digits

/-
  The parts of a number as text.

  In each layout a number has whole digits, then places behind
  a point, then an exponent; the last two may be missing.  The
  parts denote the decimal that is laid out.

  Key definitions include:
    * `Spreadsheet.Number.Parts`
    * `Spreadsheet.Number.Parts.text`
    * `Spreadsheet.Number.Parts.decimal`
    * `Spreadsheet.Number.LaidOut`

  Main results:
    * `Spreadsheet.Number.laidOut_writeDecimal`
    * `Spreadsheet.Number.laidOut_write`
-/

------------------------------------------------------------
-- Parts
------------------------------------------------------------

namespace Spreadsheet

namespace Number

/- The digits in front of a point, behind it, and a power. -/
structure Parts where
  whole : List Char
  places : List Char
  power? : Option Int
deriving DecidableEq, Repr

namespace Parts

/- Places behind their point. -/
def pointed :
    List Char → List Char
  | [] => []
  | places => '.' :: places

/- The parts as text, with an exponent as a layout has it. -/
def text
    (parts : Parts)
    (layout : Layout) :
    List Char :=
  parts.whole ++ pointed parts.places ++
    parts.power?.elim [] layout.writeExponent

/- What the parts denote. -/
def decimal
    (parts : Parts) :
    Decimal :=
  ⟨Text.decimalValue (parts.whole ++ parts.places),
    parts.power?.getD 0 - parts.places.length⟩

end Parts

/- A text of a layout that denotes a decimal by its parts. -/
structure LaidOut
    (layout : Layout)
    (d : Decimal)
    (text : List Char)
    (parts : Parts) : Prop where
  isWhole : Text.IsWhole parts.whole
  isDigit : ∀ c ∈ parts.places, c.isDigit = true
  text_eq : text = parts.text layout
  value_eq : parts.decimal.value = d.value
  marked : layout.wholeMark ≠ [] →
    parts.places ≠ [] ∨ parts.power?.isSome = true

end Number

end Spreadsheet

------------------------------------------------------------
-- Decimals In Layouts
------------------------------------------------------------

namespace Spreadsheet

namespace Number

open Text (IsWhole)

variable {layout : Layout}
variable {d : Decimal}

theorem decimal_cons
    {n : Nat}
    (hPositive : 0 < n) :
    ∃ c rest, Text.decimal n = c :: rest ∧ c ≠ '0' ∧
      ∀ d ∈ c :: rest, d.isDigit = true := by
  rcases (IsWhole.decimal n).head with ⟨c, rest, hText, -⟩
  have hHead := Text.head_decimal_ne_zero hPositive
  have hDigits : ∀ d ∈ Text.decimal n, d.isDigit = true :=
    fun _ => Text.isDigit_of_mem_decimal
  rw [hText] at hHead hDigits
  exact ⟨c, rest, hText, hHead c rfl, hDigits⟩

/- One digit, its places and an exponent. -/
theorem laidOut_scientific
    {c : Char}
    {rest : List Char}
    (hText : Text.decimal d.digits = c :: rest)
    (hDigits : 0 < d.digits) :
    LaidOut layout d
      (c :: Parts.pointed rest ++
        layout.writeExponent (d.exponent + rest.length))
      ⟨[c], rest, some (d.exponent + rest.length)⟩ := by
  rcases decimal_cons hDigits with
    ⟨c', rest', hSame, hHead, hAll⟩
  obtain ⟨rfl, rfl⟩ := List.cons.inj (hText.symm.trans hSame)
  have hDecimal :
      Parts.decimal
          ⟨[c], rest, some (d.exponent + rest.length)⟩ = d := by
    rw [Parts.decimal, List.singleton_append, ← hText,
      Text.decimalValue_decimal, Option.getD_some,
      add_sub_cancel_right]
  rw [List.forall_mem_cons] at hAll
  exact
    {
      isWhole := .of_head (by simpa using hAll.1) hHead
      isDigit := hAll.2
      text_eq := rfl
      value_eq := congrArg Decimal.value hDecimal
      marked := fun _ => .inr rfl
    }

/- A whole number with zeros up to its point and behind it. -/
theorem laidOut_whole
    {marks : Nat}
    (hMark :
      layout.wholeMark =
        Parts.pointed (List.replicate marks '0'))
    (hExponent : 0 ≤ d.exponent)
    (hZero : d.digits = 0 → d.exponent = 0) :
    LaidOut layout d
      (Text.decimal d.digits ++
        List.replicate d.exponent.toNat '0' ++
          layout.wholeMark)
      ⟨Text.decimal d.digits ++
          List.replicate d.exponent.toNat '0',
        List.replicate marks '0', none⟩ where
  isWhole := by
    rcases Nat.eq_zero_or_pos d.digits with hNone | hDigits
    · rw [hZero hNone, Int.toNat_zero, List.replicate_zero,
        List.append_nil]
      exact .decimal d.digits
    · rcases decimal_cons hDigits with
        ⟨c, rest, hText, hHead, hAll⟩
      rw [hText, List.cons_append]
      apply IsWhole.of_head ?_ hHead
      rw [← List.cons_append, List.forall_mem_append]
      exact ⟨hAll, fun _ => Text.isDigit_of_mem_zeros⟩
  isDigit _ := Text.isDigit_of_mem_zeros
  text_eq := by
    rw [hMark, Parts.text, Option.elim_none, List.append_nil]
  value_eq := by
    have hDigits :
        ∀ c ∈ Text.decimal d.digits ++
            List.replicate d.exponent.toNat '0',
          c.isDigit = true := by
      rw [List.forall_mem_append]
      exact ⟨fun _ => Text.isDigit_of_mem_decimal,
        fun _ => Text.isDigit_of_mem_zeros⟩
    have hPower :
        (10 : ℚ) ^ d.exponent = 10 ^ d.exponent.toNat := by
      rw [← zpow_natCast, Int.toNat_of_nonneg hExponent]
    rw [Decimal.value, Decimal.value, Parts.decimal,
      Text.decimalValue_append_zeros hDigits,
      Text.decimalValue_append_zeros
        (fun _ => Text.isDigit_of_mem_decimal),
      Text.decimalValue_decimal, List.length_replicate,
      Option.getD_none, zero_sub, zpow_neg, zpow_natCast,
      hPower]
    push_cast
    field_simp
  marked := by
    intro hSome
    left
    intro hNone
    rw [hMark] at hSome
    exact hSome (congrArg Parts.pointed hNone)

/- A point between digits. -/
theorem laidOut_split
    (hDigits : 0 < d.digits)
    {place : Int}
    (hPlace :
      place = d.exponent + (Text.decimal d.digits).length)
    (hPositive : 0 < place)
    (hNegative : d.exponent < 0) :
    LaidOut layout d
      ((Text.decimal d.digits).take place.toNat ++
        '.' :: (Text.decimal d.digits).drop place.toNat)
      ⟨(Text.decimal d.digits).take place.toNat,
        (Text.decimal d.digits).drop place.toNat, none⟩ := by
  have hDrop :
      ((Text.decimal d.digits).drop place.toNat).length =
        -d.exponent := by
    rw [List.length_drop]
    omega
  have hPlaces :
      (Text.decimal d.digits).drop place.toNat ≠ [] := by
    intro hNone
    rw [hNone, List.length_nil] at hDrop
    omega
  have hDecimal :
      Parts.decimal
          ⟨(Text.decimal d.digits).take place.toNat,
            (Text.decimal d.digits).drop place.toNat, none⟩ =
        d := by
    rw [Parts.decimal, List.take_append_drop,
      Text.decimalValue_decimal, Option.getD_none, hDrop,
      zero_sub, neg_neg]
  exact
    {
      isWhole := by
        rcases decimal_cons hDigits with
          ⟨c, rest, hText, hHead, hAll⟩
        rcases Nat.exists_eq_succ_of_ne_zero
            (n := place.toNat) (by omega) with
          ⟨count, hCount⟩
        rw [hText, hCount, List.take_succ_cons]
        apply IsWhole.of_head ?_ hHead
        rw [List.forall_mem_cons] at hAll ⊢
        exact ⟨hAll.1, fun c hMember =>
          hAll.2 c (List.mem_of_mem_take hMember)⟩
      isDigit := fun _ hMember =>
        Text.isDigit_of_mem_decimal
          (List.mem_of_mem_drop hMember)
      text_eq := by
        rw [Parts.text, Option.elim_none, List.append_nil,
          Parts.pointed]
        exact hPlaces
      value_eq := congrArg Decimal.value hDecimal
      marked := fun _ => .inl hPlaces
    }

/- Zeros between the point and the digits. -/
theorem laidOut_small
    {place : Int}
    (hPlace :
      place = d.exponent + (Text.decimal d.digits).length)
    (hNotPositive : place ≤ 0) :
    LaidOut layout d
      ('0' :: '.' :: List.replicate (-place).toNat '0' ++
        Text.decimal d.digits)
      ⟨['0'], List.replicate (-place).toNat '0' ++
        Text.decimal d.digits, none⟩ := by
  have hPlaces :
      List.replicate (-place).toNat '0' ++
        Text.decimal d.digits ≠ [] :=
    List.append_ne_nil_of_right_ne_nil _
      (Text.decimal_ne_nil d.digits)
  have hZeros :
      ['0'] ++ (List.replicate (-place).toNat '0' ++
          Text.decimal d.digits) =
        List.replicate ((-place).toNat + 1) '0' ++
          Text.decimal d.digits := rfl
  have hDecimal :
      Parts.decimal
          ⟨['0'], List.replicate (-place).toNat '0' ++
            Text.decimal d.digits, none⟩ = d := by
    have hExponent :
        0 - ((-place).toNat +
          (Text.decimal d.digits).length : Nat) =
            d.exponent := by
      omega
    rw [Parts.decimal, hZeros, Text.decimalValue_zeros_append _
      (fun _ => Text.isDigit_of_mem_decimal),
      Text.decimalValue_decimal, Option.getD_none,
      List.length_append, List.length_replicate, hExponent]
  exact
    {
      isWhole := .decimal 0
      isDigit := by
        rw [List.forall_mem_append]
        exact ⟨fun _ => Text.isDigit_of_mem_zeros,
          fun _ => Text.isDigit_of_mem_decimal⟩
      text_eq := by
        rw [Parts.text, Option.elim_none, List.append_nil,
          Parts.pointed]
        · rfl
        · exact hPlaces
      value_eq := congrArg Decimal.value hDecimal
      marked := fun _ => .inl hPlaces
    }

/- Each decimal is laid out by parts that denote it. -/
theorem laidOut_writeDecimal
    {marks : Nat}
    (hMark :
      layout.wholeMark =
        Parts.pointed (List.replicate marks '0'))
    (hDigits : 0 < d.digits) :
    ∃ parts,
      LaidOut layout d (layout.writeDecimal d) parts := by
  have hDecimal :
      Nat.toDigits 10 d.digits = Text.decimal d.digits := rfl
  unfold Layout.writeDecimal
  simp only [hDecimal]
  split_ifs with hRange hWhole hPlace
  · rcases decimal_cons hDigits with ⟨c, rest, hText, -⟩
    have hPower :
        d.exponent + ((c :: rest).length : Int) - 1 =
          d.exponent + rest.length := by
      rw [List.length_cons]
      omega
    refine
      ⟨⟨[c], rest, some (d.exponent + rest.length)⟩, ?_⟩
    rw [hText, hPower]
    cases rest with
    | nil => exact laidOut_scientific hText hDigits
    | cons c' rest => exact laidOut_scientific hText hDigits
  · exact ⟨_, laidOut_whole hMark hWhole (by omega)⟩
  · exact ⟨_, laidOut_split hDigits rfl hPlace (by omega)⟩
  · exact ⟨_, laidOut_small rfl (by omega)⟩

/-
  A finite float is laid out behind its sign, by parts that
  denote its decimal.
-/
theorem laidOut_write
    {marks : Nat}
    (hMark :
      layout.wholeMark =
        Parts.pointed (List.replicate marks '0'))
    {mantissa : Nat}
    {exponent : Int}
    (hBinary : 0 < mantissa → IsBinary mantissa exponent)
    (negative : Bool) :
    ∃ text parts,
      LaidOut layout (shortestDecimal mantissa exponent) text
          parts ∧
        layout.write (.finite negative mantissa exponent) =
          Layout.withSign
            (negative && (mantissa != 0 || layout.signedZero))
            text := by
  unfold Layout.write shortestDecimal
  simp only
  split_ifs with hZero
  · have hLaidOut :
        LaidOut layout ⟨0, 0⟩ ('0' :: layout.wholeMark) _ :=
      laidOut_whole hMark (le_refl 0) fun _ => rfl
    refine ⟨_, _, hLaidOut, ?_⟩
    rw [hZero]
    rfl
  · have hPositive : 0 < mantissa := Nat.pos_of_ne_zero hZero
    have hDigits : 0 < (shortest mantissa exponent).digits :=
      digits_pos_of_value_pos
        ((near_shortest (hBinary hPositive)).pos hPositive)
    rcases laidOut_writeDecimal hMark hDigits with
      ⟨parts, hLaidOut⟩
    refine ⟨_, parts, hLaidOut, ?_⟩
    rw [bne_iff_ne.mpr hZero, Bool.true_or, Bool.and_true]

end Number

end Spreadsheet
