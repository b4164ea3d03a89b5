import Spreadsheet.Number.Numeral
import Spreadsheet.Proofs.Number.Shortest
import Spreadsheet.Proofs.Text.Digits
import Spreadsheet.Proofs.Text.Stretch
import Spreadsheet.Text.Blank

/-
  Decimals as they are written.

  A decimal is written as a sign, digits around a point and an
  exponent.  All of them may be missing but one digit before
  or behind the point.  The texts that are read as decimals
  are those that are written like that, and what they are read
  as is rounded from what they denote.

  Key definitions include:
    * `Spreadsheet.Number.WrittenSign`
    * `Spreadsheet.Number.WrittenExponent`
    * `Spreadsheet.Number.WrittenDecimal`
    * `Spreadsheet.Number.Shown`

  Main results:
    * `Spreadsheet.Number.decimal?_written`
    * `Spreadsheet.Number.exists_written_of_decimal?`
    * `Spreadsheet.Number.shown_or_isDigit_of_mem_written`
-/

------------------------------------------------------------
-- Written Numbers
------------------------------------------------------------

namespace Spreadsheet

namespace Number

/- The sign in front of a number, if there is one. -/
inductive WrittenSign where
  | none
  | plus
  | minus
deriving DecidableEq, Repr

namespace WrittenSign

def text :
    WrittenSign → List Char
  | none => []
  | plus => ['+']
  | minus => ['-']

def isMinus :
    WrittenSign → Bool
  | minus => true
  | _ => false

/- Only a minus is written. -/
def ofBool
    (negative : Bool) :
    WrittenSign :=
  if negative then minus else none

@[simp] theorem isMinus_ofBool
    (negative : Bool) :
    (ofBool negative).isMinus = negative := by
  cases negative with
  | false => rfl
  | true => rfl

end WrittenSign

/- The exponent behind a number. -/
structure WrittenExponent where
  mark : Char
  sign : WrittenSign
  digits : List Char
deriving DecidableEq, Repr

namespace WrittenExponent

def text
    (exponent : WrittenExponent) :
    List Char :=
  exponent.mark :: (exponent.sign.text ++ exponent.digits)

/- The power of ten that an exponent denotes. -/
def value
    (exponent : WrittenExponent) :
    Int :=
  Binary.signed exponent.sign.isMinus
    (Text.decimalValue exponent.digits)

/- A mark and digits out of those that are allowed. -/
structure IsValid
    (isDigit : Char → Bool)
    (exponent : WrittenExponent) : Prop where
  mark : exponent.mark = 'e' ∨ exponent.mark = 'E'
  isDigit : ∀ c ∈ exponent.digits, isDigit c = true
  ne_nil : exponent.digits ≠ []

end WrittenExponent

/- A decimal by the pieces of its text. -/
structure WrittenDecimal where
  sign : WrittenSign
  whole : List Char
  point : Bool
  places : List Char
  exponent? : Option WrittenExponent
deriving DecidableEq, Repr

namespace WrittenDecimal

/- The text behind the sign. -/
def unsigned
    (written : WrittenDecimal) :
    List Char :=
  written.whole ++
    ((if written.point then ['.'] else []) ++
      (written.places ++
        written.exponent?.elim [] WrittenExponent.text))

def text
    (written : WrittenDecimal) :
    List Char :=
  written.sign.text ++ written.unsigned

/- What is denoted up to the sign. -/
def magnitude
    (written : WrittenDecimal) :
    Decimal :=
  ⟨Text.decimalValue (written.whole ++ written.places),
    written.exponent?.elim 0 WrittenExponent.value -
      written.places.length⟩

/- The number that is denoted. -/
def value
    (written : WrittenDecimal) :
    ℚ :=
  if written.sign.isMinus then
    -written.magnitude.value
  else
    written.magnitude.value

/- The float that is rounded from it. -/
def float
    (written : WrittenDecimal) :
    Float :=
  ofDecimal written.sign.isMinus written.magnitude.digits
    written.magnitude.exponent

/- Digits out of those that are allowed, around a point. -/
structure IsValid
    (isDigit : Char → Bool)
    (written : WrittenDecimal) : Prop where
  whole : ∀ c ∈ written.whole, isDigit c = true
  places : ∀ c ∈ written.places, isDigit c = true
  point : written.point = false → written.places = []
  ne_nil : written.whole ≠ [] ∨ written.places ≠ []
  exponent :
    ∀ exponent ∈ written.exponent?, exponent.IsValid isDigit

end WrittenDecimal

end Number

end Spreadsheet

------------------------------------------------------------
-- Signs
------------------------------------------------------------

namespace Spreadsheet

namespace Number

/- No sign is a digit. -/
theorem not_isDigit_sign
    {c : Char}
    (hSign : c = '+' ∨ c = '-') :
    Text.isDigit c = false := by
  rcases hSign with rfl | rfl
  · decide
  · decide

/- A sign is split off what does not begin with one. -/
theorem splitSign_append
    (sign : WrittenSign)
    {rest : List Char}
    (hRest : ∀ c ∈ rest.head?, ¬ (c = '+' ∨ c = '-')) :
    splitSign (sign.text ++ rest) = (sign.isMinus, rest) := by
  cases sign with
  | none =>
      rw [WrittenSign.text, List.nil_append]
      cases rest with
      | nil => rfl
      | cons c rest =>
          have hNone := hRest c rfl
          rw [not_or] at hNone
          rw [splitSign]
          · rfl
          · exact fun _ hPlus => hNone.1 (List.cons.inj hPlus).1
          · exact fun _ hMinus => hNone.2 (List.cons.inj hMinus).1
  | plus => rfl
  | minus => rfl

theorem exists_sign
    (text : List Char) :
    ∃ sign : WrittenSign,
      text = sign.text ++ (splitSign text).2 ∧
        sign.isMinus = (splitSign text).1 := by
  unfold splitSign
  split
  · exact ⟨.plus, rfl, rfl⟩
  · exact ⟨.minus, rfl, rfl⟩
  · exact ⟨.none, rfl, rfl⟩

end Number

end Spreadsheet

------------------------------------------------------------
-- Exponents
------------------------------------------------------------

namespace Spreadsheet

namespace Number

/- A written exponent is read as the power it denotes. -/
theorem exponent?_written
    {written? : Option WrittenExponent}
    (hValid :
      ∀ written ∈ written?, written.IsValid Text.isDigit) :
    exponent? (written?.elim [] WrittenExponent.text) =
      some (written?.elim 0 WrittenExponent.value) := by
  cases written? with
  | none => rfl
  | some written =>
      have hValid := hValid written rfl
      have hSplit :
          splitSign (written.sign.text ++ written.digits) =
            (written.sign.isMinus, written.digits) := by
        apply splitSign_append
        intro c hHead hSign
        have hDigit :=
          hValid.isDigit c (List.mem_of_mem_head? hHead)
        rw [not_isDigit_sign hSign] at hDigit
        cases hDigit
      have hMark :
          (decide (written.mark = 'e') ||
            decide (written.mark = 'E')) = true := by
        simpa using hValid.mark
      have hSome : written.digits.isEmpty = false :=
        List.isEmpty_eq_false_iff.mpr hValid.ne_nil
      have hAll : written.digits.all Text.isDigit = true :=
        List.all_eq_true.mpr hValid.isDigit
      rw [Option.elim_some, WrittenExponent.text, exponent?]
      simp only [hSplit, hMark, hSome, hAll]
      rfl

/- What is read as a power is a written exponent. -/
theorem exists_written_of_exponent?
    {text : List Char}
    {power : Int}
    (hRead : exponent? text = some power) :
    ∃ written? : Option WrittenExponent,
      (∀ written ∈ written?, written.IsValid Text.isDigit) ∧
        text = written?.elim [] WrittenExponent.text ∧
        power = written?.elim 0 WrittenExponent.value := by
  cases text with
  | nil =>
      cases hRead
      exact ⟨none, nofun, rfl, rfl⟩
  | cons mark rest =>
      rw [exponent?] at hRead
      simp only [Option.ite_none_right_eq_some] at hRead
      rcases hRead with ⟨hTest, hPower⟩
      simp only [Bool.and_eq_true, Bool.or_eq_true,
        decide_eq_true_eq, Bool.not_eq_true',
        List.isEmpty_eq_false_iff, List.all_eq_true] at hTest
      rcases hTest with ⟨⟨hMark, hSome⟩, hDigits⟩
      rcases exists_sign rest with ⟨sign, hRest, hMinus⟩
      refine ⟨some ⟨mark, sign, (splitSign rest).2⟩, ?_, ?_,
        ?_⟩
      · rintro _ ⟨rfl⟩
        exact ⟨hMark, hDigits, hSome⟩
      · rw [Option.elim_some, WrittenExponent.text]
        exact congrArg (mark :: ·) hRest
      · rw [Option.elim_some, WrittenExponent.value, hMinus]
        exact (Option.some.inj hPower).symm

/- An exponent begins neither with a digit nor with a point. -/
theorem head_written_exponent
    {written? : Option WrittenExponent}
    (hValid :
      ∀ written ∈ written?, written.IsValid Text.isDigit) :
    ∀ c ∈ (written?.elim [] WrittenExponent.text).head?,
      Text.isDigit c = false ∧ c ≠ '.' := by
  cases written? with
  | none => nofun
  | some written =>
      rintro _ ⟨rfl⟩
      rcases (hValid written rfl).mark with hMark | hMark
      · rw [hMark]
        decide
      · rw [hMark]
        decide

end Number

end Spreadsheet

------------------------------------------------------------
-- Digits Around A Point
------------------------------------------------------------

namespace Spreadsheet

namespace Number

/- Digits around a point are split from what follows them. -/
theorem splitDecimal_append
    {whole places rest : List Char}
    {point : Bool}
    (hWhole : ∀ c ∈ whole, Text.isDigit c = true)
    (hPlaces : ∀ c ∈ places, Text.isDigit c = true)
    (hPoint : point = false → places = [])
    (hRest :
      ∀ c ∈ rest.head?, Text.isDigit c = false ∧ c ≠ '.') :
    splitDecimal
        (whole ++
          ((if point then ['.'] else []) ++ (places ++ rest))) =
      (whole, places, rest) := by
  have hStop := fun c hHead => (hRest c hHead).1
  cases point with
  | true =>
      have hPointStop :
          ∀ c ∈ ('.' :: (places ++ rest)).head?,
            Text.isDigit c = false := by
        rintro _ ⟨rfl⟩
        decide
      rw [if_pos rfl, List.singleton_append]
      unfold splitDecimal
      simp only [Text.takeWhile_append_stop hWhole hPointStop,
        Text.dropWhile_append_stop hWhole hPointStop,
        Text.takeWhile_append_stop hPlaces hStop,
        Text.dropWhile_append_stop hPlaces hStop]
  | false =>
      rw [hPoint rfl, if_neg (by decide), List.nil_append,
        List.nil_append]
      unfold splitDecimal
      simp only [Text.takeWhile_append_stop hWhole hStop,
        Text.dropWhile_append_stop hWhole hStop]
      split
      · exact absurd rfl (hRest '.' rfl).2
      · rfl

/- Each text is split into digits around a point and a rest. -/
theorem exists_point
    (text : List Char) :
    ∃ point whole places rest,
      splitDecimal text = (whole, places, rest) ∧
        text =
          whole ++
            ((if point then ['.'] else []) ++
              (places ++ rest)) ∧
        (∀ c ∈ whole, Text.isDigit c = true) ∧
        (∀ c ∈ places, Text.isDigit c = true) ∧
        (point = false → places = []) := by
  have hParts :
      text.takeWhile Text.isDigit ++
        text.dropWhile Text.isDigit = text :=
    List.takeWhile_append_dropWhile
  have hWhole :
      ∀ c ∈ text.takeWhile Text.isDigit,
        Text.isDigit c = true :=
    fun c hMember => List.mem_takeWhile_imp hMember
  unfold splitDecimal
  simp only
  split
  · rename_i rest hRest
    refine ⟨true, _, _, _, rfl, ?_, hWhole,
      fun c hMember => List.mem_takeWhile_imp hMember, nofun⟩
    rw [if_pos rfl, List.takeWhile_append_dropWhile,
      List.singleton_append, ← hRest, hParts]
  · refine ⟨false, _, _, _, rfl, ?_, hWhole, nofun,
      fun _ => rfl⟩
    exact hParts.symm

end Number

end Spreadsheet

------------------------------------------------------------
-- Decimals
------------------------------------------------------------

namespace Spreadsheet

namespace Number

/- Behind its sign a decimal begins with a digit or a point. -/
theorem head_unsigned
    {written : WrittenDecimal}
    (hValid : written.IsValid Text.isDigit) :
    ∀ c ∈ written.unsigned.head?, ¬ (c = '+' ∨ c = '-') := by
  intro c hHead hSign
  unfold WrittenDecimal.unsigned at hHead
  cases hWhole : written.whole with
  | cons first rest =>
      rw [hWhole] at hHead
      rcases hHead with ⟨rfl⟩
      have hDigit :=
        hValid.whole c (hWhole ▸ List.mem_cons_self)
      rw [not_isDigit_sign hSign] at hDigit
      cases hDigit
  | nil =>
      have hPoint : written.point = true := by
        by_contra hNone
        rw [Bool.not_eq_true] at hNone
        exact hValid.ne_nil.elim (· hWhole)
          (· (hValid.point hNone))
      rw [hWhole, hPoint] at hHead
      rcases hHead with ⟨rfl⟩
      rcases hSign with hSign | hSign
      · cases hSign
      · cases hSign

/- A written decimal is read as the float of what it denotes. -/
theorem decimal?_written
    {written : WrittenDecimal}
    (hValid : written.IsValid Text.isDigit) :
    decimal? written.text = some written.float := by
  have hSplit :=
    splitDecimal_append hValid.whole hValid.places hValid.point
      (head_written_exponent hValid.exponent)
  have hEmpty :
      (written.whole.isEmpty && written.places.isEmpty) =
        false := by
    rw [Bool.and_eq_false_iff, List.isEmpty_eq_false_iff,
      List.isEmpty_eq_false_iff]
    exact hValid.ne_nil
  unfold decimal?
  rw [WrittenDecimal.text,
    splitSign_append written.sign (head_unsigned hValid)]
  unfold WrittenDecimal.unsigned
  simp only [hSplit, hEmpty, exponent?_written hValid.exponent]
  rfl

/- What is read as a decimal is a written one. -/
theorem exists_written_of_decimal?
    {text : List Char}
    {x : Float}
    (hRead : decimal? text = some x) :
    ∃ written : WrittenDecimal,
      written.IsValid Text.isDigit ∧ written.text = text ∧
        x = written.float := by
  rcases exists_sign text with ⟨sign, hText, hMinus⟩
  rcases exists_point (splitSign text).2 with
    ⟨point, whole, places, rest, hSplit, hUnsigned, hWhole,
      hPlaces, hPoint⟩
  unfold decimal? at hRead
  simp only [hSplit] at hRead
  split_ifs at hRead with hEmpty
  rw [Option.map_eq_some_iff] at hRead
  rcases hRead with ⟨power, hPower, hFloat⟩
  rcases exists_written_of_exponent? hPower with
    ⟨written?, hExponent, hRest, hValue⟩
  refine ⟨⟨sign, whole, point, places, written?⟩, ?_, ?_, ?_⟩
  · refine ⟨hWhole, hPlaces, hPoint, ?_, hExponent⟩
    rw [Bool.and_eq_true, List.isEmpty_iff, List.isEmpty_iff,
      not_and_or] at hEmpty
    exact hEmpty
  · rw [WrittenDecimal.text, WrittenDecimal.unsigned, ← hRest,
      ← hUnsigned, ← hText]
  · rw [← hFloat, ← hMinus, hValue]
    rfl

end Number

end Spreadsheet

------------------------------------------------------------
-- Characters Of Decimals
------------------------------------------------------------

namespace Spreadsheet

namespace Number

/- A character of ASCII that shows, other than the space. -/
def Shown
    (c : Char) : Prop :=
  0x21 ≤ c.toNat ∧ c.toNat < 0x7f

instance (c : Char) : Decidable (Shown c) :=
  inferInstanceAs (Decidable (_ ∧ _))

/- White space does not show, nor is it a digit. -/
theorem not_isBlank
    {c : Char}
    (hShown : Shown c ∨ Text.isDigit c = true) :
    Text.isBlank c = false := by
  have hAll :
      ∀ code ∈ Text.blanks,
        ¬ (0x21 ≤ code ∧ code < 0x7f) ∧
          Text.isDigit (Char.ofNat code) = false := by
    decide +kernel
  rw [← Bool.not_eq_true]
  intro hBlank
  rw [Text.isBlank, List.contains_iff_mem] at hBlank
  rcases hAll c.toNat hBlank with ⟨hHidden, hNone⟩
  rw [Char.ofNat_toNat] at hNone
  rcases hShown with hShown | hDigit
  · exact hHidden hShown
  · rw [hDigit] at hNone
    cases hNone

theorem WrittenSign.shown
    (sign : WrittenSign) :
    ∀ c ∈ sign.text, Shown c := by
  cases sign with
  | none => nofun
  | plus => exact List.forall_mem_singleton.mpr (by decide)
  | minus => exact List.forall_mem_singleton.mpr (by decide)

/- A decimal has signs, marks and points besides its digits. -/
theorem shown_or_isDigit_of_mem_written
    {isDigit : Char → Bool}
    {written : WrittenDecimal}
    (hValid : written.IsValid isDigit) :
    ∀ c ∈ written.text, Shown c ∨ isDigit c = true := by
  have hPoint :
      ∀ c ∈ if written.point then ['.'] else [], Shown c := by
    split_ifs
    · exact List.forall_mem_singleton.mpr (by decide)
    · nofun
  have hExponent :
      ∀ c ∈ written.exponent?.elim [] WrittenExponent.text,
        Shown c ∨ isDigit c = true := by
    cases hSome : written.exponent? with
    | none => nofun
    | some exponent =>
        have hValid := hValid.exponent exponent hSome
        rw [Option.elim_some, WrittenExponent.text,
          List.forall_mem_cons, List.forall_mem_append]
        refine ⟨.inl ?_,
          fun c hMember => .inl (exponent.sign.shown c hMember),
          fun c hMember => .inr (hValid.isDigit c hMember)⟩
        rcases hValid.mark with hMark | hMark
        · rw [hMark]
          decide
        · rw [hMark]
          decide
  rw [WrittenDecimal.text, WrittenDecimal.unsigned,
    List.forall_mem_append, List.forall_mem_append,
    List.forall_mem_append, List.forall_mem_append]
  exact
    ⟨fun c hMember => .inl (written.sign.shown c hMember),
      fun c hMember => .inr (hValid.whole c hMember),
      fun c hMember => .inl (hPoint c hMember),
      fun c hMember => .inr (hValid.places c hMember),
      hExponent⟩

/- A decimal has a text. -/
theorem written_text_ne_nil
    {isDigit : Char → Bool}
    {written : WrittenDecimal}
    (hValid : written.IsValid isDigit) :
    written.text ≠ [] := by
  intro hNone
  rw [WrittenDecimal.text, WrittenDecimal.unsigned] at hNone
  simp only [List.append_eq_nil_iff] at hNone
  rcases hNone with ⟨-, hWhole, -, hPlaces, -⟩
  exact hValid.ne_nil.elim (· hWhole) (· hPlaces)

/- A decimal stays valid if its digits are allowed. -/
theorem WrittenDecimal.IsValid.mono
    {isDigit isDigit' : Char → Bool}
    {written : WrittenDecimal}
    (hValid : written.IsValid isDigit)
    (hMore :
      ∀ c ∈ written.text,
        isDigit c = true → isDigit' c = true) :
    written.IsValid isDigit' where
  whole c hMember := by
    refine hMore c ?_ (hValid.whole c hMember)
    simp [WrittenDecimal.text, WrittenDecimal.unsigned,
      hMember]
  places c hMember := by
    refine hMore c ?_ (hValid.places c hMember)
    simp [WrittenDecimal.text, WrittenDecimal.unsigned,
      hMember]
  point := hValid.point
  ne_nil := hValid.ne_nil
  exponent exponent hSome := by
    have hExponent := hValid.exponent exponent hSome
    rw [Option.mem_def] at hSome
    refine ⟨hExponent.mark, fun c hMember => ?_,
      hExponent.ne_nil⟩
    refine hMore c ?_ (hExponent.isDigit c hMember)
    simp [WrittenDecimal.text, WrittenDecimal.unsigned,
      WrittenExponent.text, hSome, hMember]

end Number

end Spreadsheet
