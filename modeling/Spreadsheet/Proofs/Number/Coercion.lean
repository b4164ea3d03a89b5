import Spreadsheet.Coercion
import Spreadsheet.Proofs.Number.Literal
import Spreadsheet.Proofs.Text.Visible

/-
  Texts that stand for numbers.

  A text is read as what its literal denotes.  It is also what
  it stands for by the rules of JavaScript, as long as both
  alphabets agree on its characters.  But a whole number beyond
  the floats, an infinity by these rules, is a failure.

  Main results:
    * `Spreadsheet.Number.Literal.numberOfText_eq`
    * `Spreadsheet.Number.numberOfText_eq_some`
    * `Spreadsheet.Number.numberOfText_eq_error`
    * `Spreadsheet.Number.surrounds_of_usual`
    * `Spreadsheet.Number.numberOfText_iff_reads`
-/

------------------------------------------------------------
-- Texts As Literals
------------------------------------------------------------

namespace Spreadsheet

namespace Number

variable {literal : Literal}
variable {text : List Char}
variable {x : Float}

theorem shown_of_hexDigit?
    {c : Char}
    {digit : Nat}
    (hDigit : hexDigit? c = some digit) :
    Shown c := by
  unfold hexDigit? at hDigit
  simp only at hDigit
  split_ifs at hDigit with hDecimal hLower hUpper
  · change 48 ≤ c.toNat ∧ c.toNat ≤ 57 at hDecimal
    exact ⟨by omega, by omega⟩
  · change 97 ≤ c.toNat ∧ c.toNat ≤ 102 at hLower
    exact ⟨by omega, by omega⟩
  · change 65 ≤ c.toNat ∧ c.toNat ≤ 70 at hUpper
    exact ⟨by omega, by omega⟩

/- The characters of a literal show, or they are digits. -/
theorem Literal.shown_or_isDigit
    {isDigit : Char → Bool}
    (hValid : literal.IsValid isDigit) :
    ∀ c ∈ literal.text, Shown c ∨ isDigit c = true := by
  cases hValid with
  | empty => nofun
  | decimal hValid =>
      exact shown_or_isDigit_of_mem_written hValid
  | infinity sign =>
      have hWord : ∀ c ∈ "Infinity".toList, Shown c := by
        simp [Shown]
      rw [Literal.text, List.forall_mem_append]
      exact ⟨fun c hMember => .inl (sign.shown c hMember),
        fun c hMember => .inl (hWord c hMember)⟩
  | radix hMark hDigits hSome =>
      have hMarks :
          ∀ mark ∈ ['x', 'X', 'o', 'O', 'b', 'B'],
            Shown mark := by
        simp [Shown]
      rw [Literal.text, List.forall_mem_cons,
        List.forall_mem_cons]
      refine ⟨.inl (by decide),
        .inl (hMarks _ (mem_marks hMark)),
        fun c hMember => .inl ?_⟩
      rcases hDigits c hMember with ⟨digit, hDigit, -⟩
      exact shown_of_hexDigit? hDigit

/- A literal stays valid if its digits are allowed. -/
theorem Literal.IsValid.mono
    {isDigit isDigit' : Char → Bool}
    (hValid : literal.IsValid isDigit)
    (hMore :
      ∀ c ∈ literal.text,
        isDigit c = true → isDigit' c = true) :
    literal.IsValid isDigit' := by
  cases hValid with
  | empty => exact .empty
  | decimal hValid => exact .decimal (hValid.mono hMore)
  | infinity sign => exact .infinity sign
  | radix hMark hDigits hSome =>
      exact .radix hMark hDigits hSome

/- White space around a literal is all that is dropped. -/
theorem Surrounds.trim_eq
    (hSurrounds : Surrounds .coercion literal text) :
    Text.trim text = literal.text := by
  rcases hSurrounds.between with
    ⟨before, after, hBefore, hAfter, rfl⟩
  exact Text.trim_between hBefore
    (fun c hMember =>
      not_isBlank (Literal.shown_or_isDigit
        hSurrounds.isValid c hMember))
    hAfter

/- A text that is no literal between white space is no number. -/
theorem surrounds_or_none
    (s : String) :
    (∃ literal, Surrounds .coercion literal s.toList) ∨
      Value.numberOfText s = .ok none := by
  rcases Text.exists_trim s.toList with
    ⟨before, after, hBefore, hAfter, hText⟩
  by_cases hEmpty : Text.trim s.toList = []
  · left
    refine ⟨.empty, .empty, before, after, hBefore, hAfter, ?_⟩
    rw [hEmpty] at hText
    exact hText
  · by_cases hRead : numeral (Text.trim s.toList) = .none
    · right
      unfold Value.numberOfText
      simp only [List.isEmpty_iff, hEmpty, if_false, hRead]
    · left
      rcases exists_literal_of_numeral hRead with
        ⟨literal, hValid, hLiteral⟩
      rw [← hLiteral] at hText
      exact ⟨literal, hValid, before, after, hBefore, hAfter,
        hText⟩

/- The text of a literal is empty only if the literal is. -/
theorem Literal.text_ne_nil
    {isDigit : Char → Bool}
    (hValid : literal.IsValid isDigit)
    (hSome : literal ≠ .empty) :
    literal.text ≠ [] := by
  cases hValid with
  | empty => exact (hSome rfl).elim
  | decimal hValid => exact written_text_ne_nil hValid
  | infinity sign =>
      exact List.append_ne_nil_of_right_ne_nil _ (by simp)
  | radix hMark hDigits hSome => exact List.cons_ne_nil _ _

/- A text is read as its literal denotes. -/
theorem Surrounds.numberOfText_eq
    {s : String}
    (hSurrounds : Surrounds .coercion literal s.toList)
    (hDenotes : literal.Denotes x)
    (hSmall : ¬ literal.IsGreat) :
    Value.numberOfText s = .ok (some x) := by
  have hTrim := hSurrounds.trim_eq
  by_cases hEmpty : literal = .empty
  · rw [hEmpty] at hTrim hDenotes
    have hZero : (0.0 : Float) = 0 := by
      apply Float.toBits_inj.mp
      decide +kernel
    unfold Value.numberOfText
    rw [hTrim, hDenotes, ← hZero]
    rfl
  · have hSome :=
      Literal.text_ne_nil hSurrounds.isValid hEmpty
    have hRead :=
      numeral_of_denotes hSurrounds.isValid hEmpty hDenotes
        hSmall
    unfold Value.numberOfText
    simp only [hTrim, List.isEmpty_iff, hSome, if_false, hRead]

/- A whole number beyond the floats is not read but fails. -/
theorem Surrounds.numberOfText_great
    {s : String}
    (hSurrounds : Surrounds .coercion literal s.toList)
    (hGreat : literal.IsGreat) :
    Value.numberOfText s = .error .wholeTooGreat := by
  have hTrim := hSurrounds.trim_eq
  have hSome :=
    Literal.text_ne_nil hSurrounds.isValid
      (by rintro rfl; exact hGreat)
  have hRead := numeral_of_isGreat hSurrounds.isValid hGreat
  unfold Value.numberOfText
  simp only [hTrim, List.isEmpty_iff, hSome, if_false, hRead]

/- A literal stands for itself, with nothing around it. -/
theorem Literal.surrounds
    {alphabet : Alphabet}
    (hValid : literal.IsValid alphabet.isDigit) :
    Surrounds alphabet literal literal.text where
  isValid := hValid
  between :=
    ⟨[], [], nofun, nofun,
      by rw [List.nil_append, List.append_nil]⟩

/- The text of a literal is read as the literal denotes. -/
theorem Literal.numberOfText_eq
    (hValid : literal.IsValid Text.isDigit)
    (hDenotes : literal.Denotes x)
    (hSmall : ¬ literal.IsGreat) :
    Value.numberOfText (String.ofList literal.text) =
      .ok (some x) := by
  have hSurrounds :
      Surrounds .coercion literal
        (String.ofList literal.text).toList := by
    rw [String.toList_ofList]
    exact Literal.surrounds hValid
  exact hSurrounds.numberOfText_eq hDenotes hSmall

end Number

end Spreadsheet

------------------------------------------------------------
-- Coercion Of Texts
------------------------------------------------------------

namespace Spreadsheet

namespace Number

variable {literal : Literal}
variable {text : List Char}
variable {x : Float}
variable {s : String}

/- What a text is read as. -/
theorem numberOfText_eq_some :
    Value.numberOfText s = .ok (some x) ↔
      Reads .coercion s.toList x ∧
        ¬ Overlong .coercion s.toList := by
  constructor
  · intro hRead
    have hNotGreat : ¬ Overlong .coercion s.toList := by
      rintro ⟨literal, hSurrounds, hGreat⟩
      rw [hSurrounds.numberOfText_great hGreat] at hRead
      cases hRead
    refine ⟨?_, hNotGreat⟩
    rcases surrounds_or_none s with
      ⟨literal, hSurrounds⟩ | hNone
    · rcases literal.exists_denotes with ⟨y, hDenotes⟩
      rw [hSurrounds.numberOfText_eq hDenotes
        fun hGreat => hNotGreat ⟨literal, hSurrounds, hGreat⟩]
        at hRead
      cases hRead
      exact ⟨literal, hSurrounds, hDenotes⟩
    · rw [hNone] at hRead
      cases hRead
  · rintro ⟨⟨literal, hSurrounds, hDenotes⟩, hNotGreat⟩
    exact hSurrounds.numberOfText_eq hDenotes
      fun hGreat => hNotGreat ⟨literal, hSurrounds, hGreat⟩

/- When it fails to read a text. -/
theorem numberOfText_eq_error
    {failure : Failure} :
    Value.numberOfText s = .error failure ↔
      failure = .wholeTooGreat ∧
        Overlong .coercion s.toList := by
  constructor
  · intro hRead
    rcases surrounds_or_none s with
      ⟨literal, hSurrounds⟩ | hNone
    · by_cases hGreat : literal.IsGreat
      · rw [hSurrounds.numberOfText_great hGreat] at hRead
        cases hRead
        exact ⟨rfl, literal, hSurrounds, hGreat⟩
      · rcases literal.exists_denotes with ⟨y, hDenotes⟩
        rw [hSurrounds.numberOfText_eq hDenotes hGreat] at hRead
        cases hRead
    · rw [hNone] at hRead
      cases hRead
  · rintro ⟨rfl, literal, hSurrounds, hGreat⟩
    exact hSurrounds.numberOfText_great hGreat

/- Alphabets that agree on a text have the same literal there. -/
theorem Surrounds.of_agree
    {alphabet alphabet' : Alphabet}
    (hSurrounds : Surrounds alphabet literal text)
    (hBlank :
      ∀ c ∈ text, alphabet.isBlank c = alphabet'.isBlank c)
    (hDigit :
      ∀ c ∈ text, alphabet.isDigit c = alphabet'.isDigit c) :
    Surrounds alphabet' literal text := by
  rcases hSurrounds with
    ⟨hValid, before, after, hBefore, hAfter, rfl⟩
  rw [List.forall_mem_append, List.forall_mem_append]
    at hBlank hDigit
  refine ⟨hValid.mono fun c hMember hIs => ?_, before, after,
    fun c hMember => ?_, fun c hMember => ?_, rfl⟩
  · rw [← hDigit.2.1 c hMember]
    exact hIs
  · rw [← hBlank.1 c hMember]
    exact hBefore c hMember
  · rw [← hBlank.2.2 c hMember]
    exact hAfter c hMember

/- In a usual text both alphabets have the same literals. -/
theorem surrounds_of_usual
    (hUsual : ∀ c ∈ text, Alphabet.Usual c) :
    Surrounds .coercion literal text ↔
      Surrounds .script literal text := by
  constructor
  · intro hSurrounds
    exact hSurrounds.of_agree
      (fun c hMember =>
        Alphabet.isBlank_of_usual (hUsual c hMember))
      fun c hMember =>
        Alphabet.isDigit_of_usual (hUsual c hMember)
  · intro hSurrounds
    exact hSurrounds.of_agree
      (fun c hMember =>
        (Alphabet.isBlank_of_usual (hUsual c hMember)).symm)
      fun c hMember =>
        (Alphabet.isDigit_of_usual (hUsual c hMember)).symm

/-
  A text is read as the float that its literal denotes, unless
  it is a whole number beyond the floats, which fails.  If the
  text has nothing but usual characters and is no such number,
  it stands for a number by the rules of JavaScript if and only
  if it is read, and it is read as this number.
-/
theorem numberOfText_iff_reads
    (s : String) :
    (∀ x,
      Value.numberOfText s = .ok (some x) ↔
        Reads .coercion s.toList x ∧
          ¬ Overlong .coercion s.toList) ∧
    (∀ failure,
      Value.numberOfText s = .error failure ↔
        failure = .wholeTooGreat ∧
          Overlong .coercion s.toList) ∧
    ((∀ c ∈ s.toList, Alphabet.Usual c) →
      ¬ Overlong .script s.toList →
      ∃ x?,
        Value.numberOfText s = .ok x? ∧
          (∀ x, x? = some x ↔ Reads .script s.toList x) ∧
          (x?.isSome = true ↔
            ∃ literal, Surrounds .script literal s.toList)) := by
  refine ⟨fun x => numberOfText_eq_some,
    fun failure => numberOfText_eq_error, ?_⟩
  intro hUsual hNotGreat
  have hSame :
      ∀ {literal},
        Surrounds .coercion literal s.toList ↔
          Surrounds .script literal s.toList :=
    surrounds_of_usual hUsual
  have hSmall : ¬ Overlong .coercion s.toList := by
    rintro ⟨literal, hSurrounds, hGreat⟩
    exact hNotGreat ⟨literal, hSame.mp hSurrounds, hGreat⟩
  have hReads :
      ∀ x,
        Value.numberOfText s = .ok (some x) ↔
          Reads .script s.toList x := by
    intro x
    rw [numberOfText_eq_some, and_iff_left hSmall]
    exact exists_congr fun literal => and_congr_left' hSame
  cases hRead : Value.numberOfText s with
  | error failure =>
      exact (hSmall (numberOfText_eq_error.mp hRead).2).elim
  | ok x? =>
      rw [hRead] at hReads
      have hSome :
          ∀ x, x? = some x ↔ Reads .script s.toList x := by
        intro x
        rw [← hReads, Except.ok.injEq]
      refine ⟨x?, rfl, hSome, ?_⟩
      rw [Option.isSome_iff_exists]
      constructor
      · rintro ⟨x, hX⟩
        rcases (hSome x).mp hX with ⟨literal, hSurrounds, -⟩
        exact ⟨literal, hSurrounds⟩
      · rintro ⟨literal, hSurrounds⟩
        rcases literal.exists_denotes with ⟨x, hDenotes⟩
        exact ⟨x, (hSome x).mpr
          ⟨literal, hSurrounds, hDenotes⟩⟩

/- A whole number in base 16 between white space. -/
theorem numberOfText_iff_reads_hex :
    (∀ c ∈ " 0x1F\n".toList, Alphabet.Usual c) ∧
    ¬ Overlong .script " 0x1F\n".toList ∧
    ∃ x?,
      Value.numberOfText " 0x1F\n" = .ok x? ∧
        (∀ x,
          x? = some x ↔ Reads .script " 0x1F\n".toList x) ∧
        (x?.isSome = true ↔
          ∃ literal,
            Surrounds .script literal " 0x1F\n".toList) := by
  have hUsual :
      ∀ c ∈ " 0x1F\n".toList, Alphabet.Usual c := by
    have hText :
        " 0x1F\n".toList = [' ', '0', 'x', '1', 'F', '\n'] :=
      rfl
    rw [hText]
    simp only [List.forall_mem_cons]
    exact ⟨by decide, by decide, by decide, by decide,
      by decide, by decide, nofun⟩
  have hSmall : ¬ Overlong .script " 0x1F\n".toList := by
    rintro ⟨literal, hSurrounds, hGreat⟩
    have hFails :=
      ((surrounds_of_usual hUsual).mpr
        hSurrounds).numberOfText_great hGreat
    cases hFails
  exact ⟨hUsual, hSmall,
    (numberOfText_iff_reads " 0x1F\n").2.2 hUsual hSmall⟩

/- In a text that stands for a float nothing else is hidden. -/
theorem Reads.character
    {alphabet : Alphabet}
    (hReads : Reads alphabet text x) :
    ∀ c ∈ text,
      alphabet.isBlank c = true ∨ Shown c ∨
        alphabet.isDigit c = true := by
  rcases hReads with
    ⟨literal, ⟨hValid, before, after, hBefore, hAfter, rfl⟩, -⟩
  rw [List.forall_mem_append, List.forall_mem_append]
  exact
    ⟨fun c hMember => .inl (hBefore c hMember),
      fun c hMember =>
        .inr (Literal.shown_or_isDigit hValid c hMember),
      fun c hMember => .inl (hAfter c hMember)⟩

/- The number 2 ^ 1024 in base 16. -/
def farHex : Literal :=
  .radix 16 'x' ('1' :: List.replicate 256 '0')

/- Twelve behind a byte mark. -/
def twelve : WrittenDecimal :=
  ⟨.none, ['1', '2'], false, [], none⟩

/-
  Beyond the usual texts they differ: a whole number is an
  infinity by the rules of JavaScript alone, a byte mark is
  white space by these alone, and digits of another script and
  separators are digits and white space by coercion alone.
-/
theorem numberOfText_unlike_script :
    (Reads .script farHex.text (1.0 / 0.0) ∧
      Value.numberOfText (String.ofList farHex.text) =
        .error .wholeTooGreat) ∧
    ((∃ x, Reads .script "\ufeff12".toList x) ∧
      Value.numberOfText "\ufeff12" = .ok none) ∧
    ((∀ x, ¬ Reads .script "\u0661".toList x) ∧
      ∃ x, Value.numberOfText "\u0661" = .ok (some x)) ∧
    ((∀ x, ¬ Reads .script "\x1c7".toList x) ∧
      ∃ x, Value.numberOfText "\x1c7" = .ok (some x)) := by
  have hDigits :
      ∀ c ∈ '1' :: List.replicate 256 '0',
        Literal.InBase 16 c := by
    rw [List.forall_mem_cons]
    refine ⟨⟨1, rfl, by decide⟩, fun c hMember => ?_⟩
    rw [List.eq_of_mem_replicate hMember]
    exact ⟨0, rfl, by decide⟩
  have hValid :
      ∀ isDigit, Literal.IsValid isDigit farHex :=
    fun isDigit => .radix rfl hDigits (List.cons_ne_nil _ _)
  have hGreat : farHex.IsGreat :=
    (exceeds_iff _).mp (by decide +kernel)
  refine ⟨⟨?_, ?_⟩, ⟨?_, rfl⟩, ⟨?_, _, rfl⟩, ?_, _, rfl⟩
  · exact ⟨farHex, Literal.surrounds (hValid _),
      .inr ⟨by decide +kernel, hGreat⟩⟩
  · apply numberOfText_eq_error.mpr
    rw [String.toList_ofList]
    exact ⟨rfl, farHex, Literal.surrounds (hValid _), hGreat⟩
  · rcases Literal.exists_denotes (.decimal twelve) with
      ⟨x, hDenotes⟩
    have hTwelve : ∀ c ∈ ['1', '2'], c.isDigit = true := by
      simp
    have hBlank :
        ∀ c ∈ ['\ufeff'],
          Alphabet.script.isBlank c = true := by
      rw [List.forall_mem_singleton]
      rfl
    exact
      ⟨x, .decimal twelve,
        ⟨.decimal ⟨hTwelve, nofun, fun _ => rfl,
          .inl (List.cons_ne_nil _ _), nofun⟩,
          ['\ufeff'], [], hBlank, nofun, rfl⟩, hDenotes⟩
  · intro x hReads
    rcases hReads.character '\u0661' (by simp) with
      hBlank | hShown | hDigit
    · exact absurd hBlank (by decide)
    · exact absurd hShown (by decide)
    · exact absurd hDigit (by decide)
  · intro x hReads
    rcases hReads.character '\x1c' (by simp) with
      hBlank | hShown | hDigit
    · exact absurd hBlank (by decide)
    · exact absurd hShown (by decide)
    · exact absurd hDigit (by decide)

end Number

end Spreadsheet
