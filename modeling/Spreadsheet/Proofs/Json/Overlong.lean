import Spreadsheet.Proofs.Json.Numbers

/-
  Integers of too many digits.

  Whatever a text is, what is read of it leaves an end of it,
  and reading fails for the number of digits only at so many
  digits in a row.  So a text without such a row is a document
  or none.

  Key definitions include:
    * `Spreadsheet.Json.HasNumeral`
    * `Spreadsheet.Json.StaysIn`

  Main results:
    * `Spreadsheet.Json.allStay`
    * `Spreadsheet.Document.hasNumeral_of_tooMany`
-/

------------------------------------------------------------
-- Reading Within A Text
------------------------------------------------------------

namespace Spreadsheet

namespace Json

/- So many digits, too many of them, stand in a row. -/
def HasNumeral
    (length : Nat)
    (text : List Char) : Prop :=
  Text.longestNumeral < length ∧
    ∃ digits : List Char,
      digits.length = length ∧
        (∀ c ∈ digits, c.isDigit = true) ∧
          digits <:+: text

theorem HasNumeral.mono
    {length : Nat}
    {text more : List Char}
    (hNumeral : HasNumeral length text)
    (hText : text <:+ more) :
    HasNumeral length more := by
  rcases hNumeral with ⟨hMany, digits, hLength, hDigits, hIn⟩
  exact ⟨hMany, digits, hLength, hDigits,
    hIn.trans hText.isInfix⟩

/-
  What is left behind a part of a text is an end of it, and
  digits that are too many stand in the text.
-/
def StaysIn
    {α : Type}
    (text : List Char) :
    Except JsonFault (α × List Char) → Prop
  | .ok (_, rest) => rest <:+ text
  | .error .malformed => True
  | .error (.tooManyDigits length) => HasNumeral length text

variable {α β : Type}
variable {text more : List Char}

theorem StaysIn.mono
    {result : Except JsonFault (α × List Char)}
    (hStays : StaysIn text result)
    (hText : text <:+ more) :
    StaysIn more result := by
  cases result with
  | ok found => exact List.IsSuffix.trans hStays hText
  | error fault =>
      cases fault with
      | malformed => trivial
      | tooManyDigits length =>
          exact HasNumeral.mono hStays hText

/- One part may be read behind another. -/
theorem StaysIn.bind
    {result : Except JsonFault (α × List Char)}
    {follow :
      α × List Char → Except JsonFault (β × List Char)}
    (hStays : StaysIn text result)
    (hFollow : ∀ found rest, StaysIn rest (follow (found, rest))) :
    StaysIn text (result >>= follow) := by
  cases result with
  | ok found => exact (hFollow found.1 found.2).mono hStays
  | error fault =>
      cases fault with
      | malformed => trivial
      | tooManyDigits length => exact hStays

theorem skipBlanks_suffix
    (text : List Char) :
    skipBlanks text <:+ text :=
  List.dropWhile_suffix isBlank

theorem afterWord?_suffix
    {word rest : List Char}
    (hRest : afterWord? word text = some rest) :
    rest <:+ text := by
  simp only [afterWord?] at hRest
  split at hRest
  · rw [← Option.some.inj hRest]
    exact List.drop_suffix _ _
  · cases hRest

/- What is left behind a string is an end of the text. -/
theorem stringFrom_suffix
    {done units : List Unit}
    {rest : List Char}
    (hString : stringFrom done text = some (units, rest)) :
    rest <:+ text := by
  fun_induction stringFrom done text with
  | case1 => cases hString
  | case2 done behind =>
      cases hString
      exact List.suffix_cons _ _
  | case3 done a b c d behind n hUnit ih =>
      exact (ih hString).trans
        ⟨['\\', 'u', a, b, c, d], rfl⟩
  | case4 => cases hString
  | case5 done c behind hOther escaped hEscape ih =>
      exact (ih hString).trans ⟨['\\', c], rfl⟩
  | case6 => cases hString
  | case7 => cases hString
  | case8 done c behind hOther hPlain hEscape hBelow ih =>
      exact (ih hString).trans (List.suffix_cons c behind)

theorem string_staysIn
    (text : List Char) :
    StaysIn text (string text) := by
  unfold string
  cases hString : stringFrom [] text with
  | none => trivial
  | some found => exact stringFrom_suffix hString

end Json

end Spreadsheet

------------------------------------------------------------
-- Numbers
------------------------------------------------------------

namespace Spreadsheet

namespace Json

variable {text : List Char}

theorem digitsOf_suffix
    (text : List Char) :
    (digitsOf text).2 <:+ text :=
  List.dropWhile_suffix _

theorem fraction_suffix
    (text : List Char) :
    (fraction text).2 <:+ text := by
  unfold fraction
  split
  · rename_i rest
    simp only
    split
    · exact List.suffix_rfl
    · exact (digitsOf_suffix rest).trans
        (List.suffix_cons '.' rest)
  · exact List.suffix_rfl

theorem signedDigits_suffix
    (text : List Char) :
    (signedDigits text).2.2 <:+ text := by
  unfold signedDigits
  split
  · exact (digitsOf_suffix _).trans (List.suffix_cons _ _)
  · exact (digitsOf_suffix _).trans (List.suffix_cons _ _)
  · exact digitsOf_suffix _

theorem exponent_suffix
    (text : List Char) :
    (exponent text).2 <:+ text := by
  unfold exponent
  split
  · rename_i c rest
    split
    · simp only
      split
      · exact List.suffix_rfl
      · exact (signedDigits_suffix rest).trans
          (List.suffix_cons c rest)
    · exact List.suffix_rfl
  · exact List.suffix_rfl

/- The whole part of a number are digits that it begins with. -/
theorem wholePart_spec
    (text : List Char) :
    (∀ c ∈ (wholePart text).1, c.isDigit = true) ∧
      (wholePart text).1 ++ (wholePart text).2 = text := by
  unfold wholePart
  split
  · refine ⟨?_, rfl⟩
    intro c hMember
    rw [List.mem_singleton.mp hMember]
    rfl
  · unfold digitsOf
    rw [Text.isAsciiDigit_eq]
    exact ⟨fun _ => List.mem_takeWhile_imp,
      List.takeWhile_append_dropWhile⟩

theorem unsigned_staysIn
    (negative : Bool)
    (text : List Char) :
    StaysIn text (unsigned negative text) := by
  have hWhole := wholePart_spec text
  have hBehind : (wholePart text).2 <:+ text :=
    ⟨_, hWhole.2⟩
  have hRest :
      (exponent (fraction (wholePart text).2).2).2 <:+ text :=
    ((exponent_suffix _).trans (fraction_suffix _)).trans
      hBehind
  unfold unsigned
  simp only
  split
  · trivial
  · split
    · split
      · rename_i hMany
        exact ⟨hMany, _, rfl, hWhole.1,
          List.IsPrefix.isInfix ⟨_, hWhole.2⟩⟩
      · exact hRest
    · exact hRest

theorem number_staysIn
    (text : List Char) :
    StaysIn text (number text) := by
  unfold number
  split
  · rename_i rest
    split
    · rename_i behind hWord
      exact (afterWord?_suffix hWord).trans
        (List.suffix_cons '-' rest)
    · exact (unsigned_staysIn true rest).mono
        (List.suffix_cons '-' rest)
  · exact unsigned_staysIn false text

theorem scalar_staysIn
    (text : List Char) :
    StaysIn text (scalar text) := by
  unfold scalar
  split
  · rename_i found hFound
    rcases List.exists_of_findSome?_eq_some hFound with
      ⟨entry, -, hEntry⟩
    rcases Option.map_eq_some_iff.mp hEntry with
      ⟨rest, hRest, rfl⟩
    exact afterWord?_suffix hRest
  · exact number_staysIn text

end Json

end Spreadsheet

------------------------------------------------------------
-- Values
------------------------------------------------------------

namespace Spreadsheet

namespace Json

/- Everything that is read with so much fuel stays in its text. -/
structure AllStay
    (fuel : Nat) : Prop where
  value : ∀ text, StaysIn text (value fuel text)
  items : ∀ done text, StaysIn text (items fuel done text)
  entries : ∀ done text,
    StaysIn text (entries fuel done text)

variable {fuel : Nat}

theorem value_succ_staysIn
    (hStay : AllStay fuel)
    (text : List Char) :
    StaysIn text (value (fuel + 1) text) := by
  unfold value
  split
  · rename_i rest
    refine StaysIn.mono ?_ (List.suffix_cons _ rest)
    exact (string_staysIn rest).bind
      fun _ _ => List.suffix_rfl
  · rename_i rest
    refine StaysIn.mono ?_ ((skipBlanks_suffix rest).trans
      (List.suffix_cons _ rest))
    split
    · rename_i behind hClosed
      rw [hClosed]
      exact List.suffix_cons _ behind
    · exact hStay.items [] _
  · rename_i rest
    refine StaysIn.mono ?_ ((skipBlanks_suffix rest).trans
      (List.suffix_cons _ rest))
    split
    · rename_i behind hClosed
      rw [hClosed]
      exact List.suffix_cons _ behind
    · exact hStay.entries [] _
  · exact scalar_staysIn text

theorem items_succ_staysIn
    (hStay : AllStay fuel)
    (done : List (Document Key))
    (text : List Char) :
    StaysIn text (items (fuel + 1) done text) := by
  unfold items
  refine (hStay.value text).bind fun item rest => ?_
  refine StaysIn.mono ?_ (skipBlanks_suffix rest)
  simp only
  split
  · rename_i behind hComma
    rw [hComma]
    refine (hStay.items _ _).mono ?_
    exact (skipBlanks_suffix behind).trans
      (List.suffix_cons _ behind)
  · rename_i behind hClosed
    rw [hClosed]
    exact List.suffix_cons _ behind
  · trivial

theorem entries_succ_staysIn
    (hStay : AllStay fuel)
    (done : Entries Key)
    (text : List Char) :
    StaysIn text (entries (fuel + 1) done text) := by
  unfold entries
  split
  · rename_i rest
    refine StaysIn.mono ?_ (List.suffix_cons _ rest)
    refine (string_staysIn rest).bind fun name rest => ?_
    refine StaysIn.mono ?_ (skipBlanks_suffix rest)
    simp only
    split
    · rename_i behind hColon
      rw [hColon]
      refine StaysIn.mono ?_ ((skipBlanks_suffix behind).trans
        (List.suffix_cons _ behind))
      refine (hStay.value _).bind fun document rest => ?_
      refine StaysIn.mono ?_ (skipBlanks_suffix rest)
      simp only
      split
      · rename_i behind hComma
        rw [hComma]
        refine (hStay.entries _ _).mono ?_
        exact (skipBlanks_suffix behind).trans
          (List.suffix_cons _ behind)
      · rename_i behind hClosed
        rw [hClosed]
        exact List.suffix_cons _ behind
      · trivial
    · trivial
  · trivial

/- By induction on the fuel all that is read stays in its text. -/
theorem allStay
    (fuel : Nat) :
    AllStay fuel := by
  induction fuel with
  | zero =>
      exact ⟨fun _ => trivial, fun _ _ => trivial,
        fun _ _ => trivial⟩
  | succ fuel ih =>
      exact ⟨value_succ_staysIn ih, items_succ_staysIn ih,
        entries_succ_staysIn ih⟩

end Json

/-
  A text is said to have an integer of too many digits only if
  so many stand in a row in it.
-/
theorem Document.hasNumeral_of_tooMany
    {text : List Char}
    {length : Nat}
    (hMany : ofJson text = .error (.tooManyDigits length)) :
    Json.HasNumeral length text := by
  have hStays :=
    ((Json.allStay (text.length + 1)).value
      (Json.skipBlanks text)).mono (Json.skipBlanks_suffix text)
  unfold ofJson at hMany
  cases hValue :
      Json.value (text.length + 1) (Json.skipBlanks text) with
  | ok found =>
      rw [hValue] at hMany
      simp only [bind, Except.bind] at hMany
      split at hMany
      · cases hMany
      · cases hMany
  | error fault =>
      rw [hValue] at hMany hStays
      cases hMany
      exact hStays

end Spreadsheet
