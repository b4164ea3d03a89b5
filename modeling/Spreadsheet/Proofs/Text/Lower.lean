import Spreadsheet.Proofs.Text.Occurrence
import Spreadsheet.Text.Case

/-
  Lower case of parts of a text.

  The lower case of a text is that of its parts, each between
  the others.  What is around a part does not change how long
  it becomes: only the capital I with a dot becomes longer.
  It does change the part if some capital sigma ends a word
  with one of them and not with the other.  So an occurrence
  in the lower case of a text is where the letters of the text
  are, if no such letter is in front of it.

  Key definitions include:
    * `Spreadsheet.Text.lowerWithin`
    * `Spreadsheet.Text.isFinal`
    * `Spreadsheet.Text.KeepsSigmas`

  Main results:
    * `Spreadsheet.Text.lowerAfter_append`
    * `Spreadsheet.Text.length_lowerWithin`
    * `Spreadsheet.Text.lower_eq_lowerWithin_iff`
    * `Spreadsheet.Text.lower_slice_eq_iff`
-/

------------------------------------------------------------
-- Parts Of Texts
------------------------------------------------------------

namespace Spreadsheet

namespace Text

/-
  The lower-case form of a text between the text before it,
  in reverse, and the text after it.
-/
def lowerWithin
    (before after : List Char) :
    List Char → List Char
  | [] => []
  | c :: rest =>
      lowerChar before c (rest ++ after) ++
        lowerWithin (c :: before) after rest

/- The lower case of a text is that of its two parts. -/
theorem lowerAfter_append
    (before text after : List Char) :
    lowerAfter before (text ++ after) =
      lowerWithin before after text ++
        lowerAfter (text.reverse ++ before) after := by
  induction text generalizing before with
  | nil => rfl
  | cons c rest ih =>
      rw [List.cons_append, lowerAfter, lowerWithin, ih,
        List.append_assoc, List.reverse_cons,
        List.append_assoc rest.reverse,
        List.singleton_append]

/- The last part has nothing after it. -/
theorem lowerAfter_eq_lowerWithin
    (before text : List Char) :
    lowerAfter before text = lowerWithin before [] text := by
  have hAppend := lowerAfter_append before text []
  rwa [List.append_nil, lowerAfter, List.append_nil]
    at hAppend

end Text

end Spreadsheet

------------------------------------------------------------
-- Lengths
------------------------------------------------------------

namespace Spreadsheet

namespace Text

/- Only the capital I with a dot becomes longer. -/
theorem length_lowerChar
    (before after : List Char)
    (c : Char) :
    (lowerChar before c after).length =
      if c = dottedCapitalI then 2 else 1 := by
  rw [lowerChar]
  split_ifs
  · rfl
  · rfl
  · rfl
  · rfl

theorem length_lowerWithin
    (before after text : List Char) :
    (lowerWithin before after text).length =
      text.length + text.count dottedCapitalI := by
  induction text generalizing before with
  | nil => rfl
  | cons c rest ih =>
      rw [lowerWithin, List.length_append, length_lowerChar,
        ih, List.length_cons, List.count_cons]
      by_cases hDotted : c = dottedCapitalI
      · rw [if_pos hDotted, if_pos (beq_iff_eq.mpr hDotted)]
        omega
      · rw [if_neg hDotted, if_neg (by simpa using hDotted)]
        omega

theorem length_lower
    (text : List Char) :
    (lower text).length =
      text.length + text.count dottedCapitalI := by
  rw [lower, lowerAfter_eq_lowerWithin, length_lowerWithin]

/- Without this letter a part is as long as before. -/
theorem length_lowerWithin_of_not_mem
    (before after : List Char)
    {text : List Char}
    (hPlain : dottedCapitalI ∉ text) :
    (lowerWithin before after text).length = text.length := by
  rw [length_lowerWithin, List.count_eq_zero.mpr hPlain,
    Nat.add_zero]

end Text

end Spreadsheet

------------------------------------------------------------
-- Sigmas
------------------------------------------------------------

namespace Spreadsheet

namespace Text

/-
  A letter between the text before it, in reverse, and the
  text after it ends a word.
-/
def isFinal
    (before after : List Char) :
    Bool :=
  nextIsCased before && !nextIsCased after

/-
  Each capital sigma of a text ends a word of the text if and
  only if it does with what is around the text.
-/
def KeepsSigmas
    (before text after : List Char) : Prop :=
  ∀ front back,
    text = front ++ capitalSigma :: back →
      isFinal front.reverse back =
        isFinal (front.reverse ++ before) (back ++ after)

variable {before before' after after' text : List Char}
variable {c : Char}

/- A text without a capital sigma has nothing to keep. -/
theorem keepsSigmas_of_not_mem
    (hNone : capitalSigma ∉ text) :
    KeepsSigmas before text after := by
  rintro front back rfl
  exact absurd
    (List.mem_append_right _ List.mem_cons_self) hNone

/- Only a capital sigma depends on what is around it. -/
theorem lowerChar_eq_iff :
    lowerChar before c after = lowerChar before' c after' ↔
      (c = capitalSigma →
        isFinal before after = isFinal before' after') := by
  have hOther : capitalSigma ≠ dottedCapitalI := by decide
  have hApart : finalSigma ≠ smallSigma := by decide
  by_cases hSigma : c = capitalSigma
  · subst hSigma
    have hForm :
        ∀ before after,
          lowerChar before capitalSigma after =
            if isFinal before after then
              [finalSigma]
            else
              [smallSigma] := by
      intro before after
      rw [lowerChar, if_neg hOther, if_pos rfl]
      rfl
    rw [hForm, hForm, forall_prop_of_true rfl]
    cases isFinal before after <;>
      cases isFinal before' after' <;>
      simp [hApart, hApart.symm]
  · refine iff_of_true ?_ fun hSame => absurd hSame hSigma
    rw [lowerChar, lowerChar, if_neg hSigma, if_neg hSigma]

/- So does a part of a text. -/
theorem lowerWithin_eq_iff :
    lowerWithin before after text =
        lowerWithin before' after' text ↔
      ∀ front back,
        text = front ++ capitalSigma :: back →
          isFinal (front.reverse ++ before) (back ++ after) =
            isFinal (front.reverse ++ before')
              (back ++ after') := by
  induction text generalizing before before' with
  | nil =>
      refine iff_of_true rfl fun front back hNone => ?_
      cases front with
      | nil => cases hNone
      | cons c front => cases hNone
  | cons c rest ih =>
      have hLength :
          (lowerChar before c (rest ++ after)).length =
            (lowerChar before' c (rest ++ after')).length := by
        rw [length_lowerChar, length_lowerChar]
      have hBoth :
          lowerWithin before after (c :: rest) =
              lowerWithin before' after' (c :: rest) ↔
            lowerChar before c (rest ++ after) =
                lowerChar before' c (rest ++ after') ∧
              lowerWithin (c :: before) after rest =
                lowerWithin (c :: before') after' rest :=
        ⟨fun hSame => List.append_inj hSame hLength,
          fun hSame => congrArg₂ (· ++ ·) hSame.1 hSame.2⟩
      rw [hBoth, lowerChar_eq_iff, ih]
      constructor
      · rintro ⟨hFirst, hRest⟩ front back hText
        cases front with
        | nil =>
            cases hText
            exact hFirst rfl
        | cons c front =>
            cases hText
            simpa only [List.reverse_cons, List.append_assoc,
              List.singleton_append] using
              hRest front back rfl
      · intro hAll
        refine ⟨fun hSigma => ?_, fun front back hText => ?_⟩
        · exact hAll [] rest (by rw [hSigma]; rfl)
        · have hBehind :=
            hAll (c :: front) back (by rw [hText]; rfl)
          simpa only [List.reverse_cons, List.append_assoc,
            List.singleton_append] using hBehind

/- Alone a part becomes the same if it keeps its sigmas. -/
theorem lower_eq_lowerWithin_iff
    (before text after : List Char) :
    lower text = lowerWithin before after text ↔
      KeepsSigmas before text after := by
  rw [lower, lowerAfter_eq_lowerWithin, lowerWithin_eq_iff]
  simp only [KeepsSigmas, List.append_nil]

end Text

end Spreadsheet

------------------------------------------------------------
-- Occurrences In Lower Case
------------------------------------------------------------

namespace Spreadsheet

namespace Text

variable {needle text : List Char}
variable {offset : Nat}

/- Without that letter in front the text has the offset. -/
theorem le_length_of_lower
    (hPlain : dottedCapitalI ∉ text.take offset)
    (hOffset : offset ≤ (lower text).length) :
    offset ≤ text.length := by
  by_contra hBeyond
  rw [List.take_of_length_le (by omega)] at hPlain
  rw [length_lower, List.count_eq_zero.mpr hPlain] at hOffset
  omega

/- What is behind an offset is lowered behind this offset. -/
theorem drop_lower
    (hPlain : dottedCapitalI ∉ text.take offset)
    (hOffset : offset ≤ text.length)
    (count : Nat) :
    (lower text).drop offset =
      lowerWithin (text.take offset).reverse
          (text.drop (offset + count))
          (slice text offset count) ++
        lowerAfter
          ((slice text offset count).reverse ++
            (text.take offset).reverse)
          (text.drop (offset + count)) := by
  have hFront :
      (lowerWithin [] (text.drop offset)
        (text.take offset)).length = offset := by
    rw [length_lowerWithin_of_not_mem _ _ hPlain,
      List.length_take, Nat.min_eq_left hOffset]
  have hRest :
      slice text offset count ++ text.drop (offset + count) =
        text.drop offset := by
    rw [slice, ← List.drop_drop, List.take_append_drop]
  have hLower :
      lower text =
        lowerWithin [] (text.drop offset)
            (text.take offset) ++
          lowerAfter (text.take offset).reverse
            (text.drop offset) := by
    have hAppend :=
      lowerAfter_append [] (text.take offset)
        (text.drop offset)
    rwa [List.take_append_drop, List.append_nil] at hAppend
  rw [hLower, List.drop_left' hFront, ← hRest,
    lowerAfter_append]

/-
  Where the lower case of a text is found, what is there has
  this lower case if it has as many characters then and keeps
  its sigmas.
-/
theorem lower_slice_eq_iff
    (hPlain : dottedCapitalI ∉ text.take offset)
    (hOccurs : OccursAt (lower needle) (lower text) offset)
    (count : Nat) :
    lower (slice text offset count) = lower needle ↔
      (lower (slice text offset count)).length =
          (lower needle).length ∧
        KeepsSigmas (text.take offset).reverse
          (slice text offset count)
          (text.drop (offset + count)) := by
  let before := (text.take offset).reverse
  let part := slice text offset count
  let after := text.drop (offset + count)
  have hOffset := le_length_of_lower hPlain hOccurs.1
  have hNeedle := (occursAt_iff_begins.mp hOccurs).2
  rw [drop_lower hPlain hOffset count] at hNeedle
  have hPart :
      lowerWithin before after part <+:
        lowerWithin before after part ++
          lowerAfter (part.reverse ++ before) after :=
    List.prefix_append _ _
  have hLength :
      (lower part).length =
        (lowerWithin before after part).length := by
    rw [length_lower, length_lowerWithin]
  -- The letters there and the text begin the same characters.
  have hFits
      (hLong :
        (lower part).length = (lower needle).length) :
      lowerWithin before after part = lower needle := by
    rw [hLength] at hLong
    exact (List.prefix_of_prefix_length_le hPart hNeedle
      hLong.le).eq_of_length hLong
  rw [← lower_eq_lowerWithin_iff]
  constructor
  · intro hSame
    have hLong := congrArg List.length hSame
    exact ⟨hLong, hSame.trans (hFits hLong).symm⟩
  · rintro ⟨hLong, hKept⟩
    exact hKept.trans (hFits hLong)

/- In a plain text it has this lower case at all events. -/
theorem lower_slice_of_plain
    (hPlain : dottedCapitalI ∉ text)
    (hSigma : capitalSigma ∉ text)
    (hNeedle : dottedCapitalI ∉ needle)
    (hOccurs : OccursAt (lower needle) (lower text) offset) :
    lower (slice text offset needle.length) =
      lower needle := by
  have hPart : slice text offset needle.length ⊆ text :=
    fun _ hMember =>
      List.mem_of_mem_drop (List.mem_of_mem_take hMember)
  have hLength :
      ∀ {other : List Char}, dottedCapitalI ∉ other →
        (lower other).length = other.length := by
    intro other hOther
    rw [length_lower, List.count_eq_zero.mpr hOther,
      Nat.add_zero]
  have hInside := congrArg List.length hOccurs.2
  rw [slice, List.length_take, List.length_drop,
    hLength hPlain, hLength hNeedle] at hInside
  rw [lower_slice_eq_iff
    (fun hMember => hPlain (List.mem_of_mem_take hMember))
    hOccurs]
  refine ⟨?_, keepsSigmas_of_not_mem fun hMember =>
    hSigma (hPart hMember)⟩
  rw [hLength fun hMember => hPlain (hPart hMember),
    hLength hNeedle, slice, List.length_take,
    List.length_drop, hInside]

end Text

end Spreadsheet
