import Mathlib.Algebra.GroupWithZero.Nat
import Spreadsheet.Proofs.Text.Occurrence

/-
  Replacement of the occurrences of a text.

  A text is divided in one way into parts with another text
  between them so that this text occurs first right behind
  each part but the last and does not occur in the last one.
  Replacement keeps these parts and exchanges what is between
  them.

  Key definitions include:
    * `Spreadsheet.Text.OccursFirst`
    * `Spreadsheet.Text.IsDivision`

  Main results:
    * `Spreadsheet.Text.exists_isDivision`
    * `Spreadsheet.Text.IsDivision.unique`
    * `Spreadsheet.Text.replaceAll_of_isDivision`
    * `Spreadsheet.Text.length_intercalate`
-/

------------------------------------------------------------
-- First Occurrences In Parts
------------------------------------------------------------

namespace Spreadsheet

namespace Text

/- A text occurs at an offset and nowhere before. -/
def OccursFirst
    (needle text : List Char)
    (offset : Nat) : Prop :=
  OccursAt needle text offset ∧
    ∀ earlier < offset, ¬ OccursAt needle text earlier

variable {needle text part rest : List Char}
variable {c : Char}
variable {offset other : Nat}

/- There is one first occurrence. -/
theorem OccursFirst.unique
    (hFirst : OccursFirst needle text offset)
    (hOther : OccursFirst needle text other) :
    offset = other := by
  rcases lt_trichotomy offset other with hLess | rfl | hMore
  · exact (hOther.2 offset hLess hFirst.1).elim
  · rfl
  · exact (hFirst.2 other hMore hOther.1).elim

/- What occurs divides a text into what is around it. -/
theorem OccursAt.split
    (hOccurs : OccursAt needle text offset) :
    ∃ part rest,
      text = part ++ (needle ++ rest) ∧ part.length = offset := by
  rcases occursAt_iff_begins.mp hOccurs with
    ⟨hInside, rest, hRest⟩
  refine ⟨text.take offset, rest, ?_,
    List.length_take_of_le hInside⟩
  rw [hRest, List.take_append_drop]

/- A first occurrence is not at the front of a longer part. -/
theorem OccursFirst.not_begins
    (hFirst :
      OccursFirst needle ((c :: part) ++ rest)
        (c :: part).length) :
    ¬ needle <+: (c :: part) ++ rest := by
  intro hBegins
  exact hFirst.2 0 (Nat.succ_pos part.length)
    (occursAt_zero.mpr hBegins)

/- Behind the first character a first occurrence stays first. -/
theorem OccursFirst.tail
    (hFirst :
      OccursFirst needle ((c :: part) ++ rest)
        (c :: part).length) :
    OccursFirst needle (part ++ rest) part.length := by
  refine ⟨occursAt_succ.mp hFirst.1, ?_⟩
  intro earlier hEarlier hOccurs
  exact hFirst.2 (earlier + 1) (Nat.succ_lt_succ hEarlier)
    (occursAt_succ.mpr hOccurs)

end Text

end Spreadsheet

------------------------------------------------------------
-- Divisions
------------------------------------------------------------

namespace Spreadsheet

namespace Text

/-
  Parts of a text with another text between them.  Before the
  last part this text occurs first right behind each part, in
  what is left from this part on.
-/
structure IsDivision
    (between text : List Char)
    (parts : List (List Char)) : Prop where
  ne_nil : parts ≠ []
  joined : between.intercalate parts = text
  first :
    ∀ part rest, part :: rest <:+ parts → rest ≠ [] →
      OccursFirst between (between.intercalate (part :: rest))
        part.length
  last :
    ∀ part, [part] <:+ parts →
      ∀ offset, ¬ OccursAt between part offset

variable {between text part : List Char}
variable {parts others : List (List Char)}

/- A text in which the other does not occur is one part. -/
theorem isDivision_single
    (hNowhere : ∀ offset, ¬ OccursAt between text offset) :
    IsDivision between text [text] where
  ne_nil := List.cons_ne_nil _ _
  joined := List.intercalate_singleton
  first := by
    intro part rest hSuffix hSome
    have hLength := hSuffix.length_le
    rw [List.length_cons, List.length_singleton] at hLength
    exact (hSome (List.eq_nil_of_length_eq_zero
      (by omega))).elim
  last := by
    intro part hSuffix
    rw [List.cons.inj (hSuffix.eq_of_length rfl) |>.1]
    exact hNowhere

/- A part up to the first occurrence is put in front. -/
theorem IsDivision.cons
    {rest : List Char}
    (hDivision : IsDivision between rest parts)
    (hFirst :
      OccursFirst between (part ++ (between ++ rest))
        part.length) :
    IsDivision between (part ++ (between ++ rest))
      (part :: parts) where
  ne_nil := List.cons_ne_nil _ _
  joined := by
    rw [List.intercalate_cons_of_ne_nil hDivision.ne_nil,
      List.append_assoc, hDivision.joined]
  first := by
    intro other others hSuffix hSome
    rcases List.suffix_cons_iff.mp hSuffix with
      hSame | hBehind
    · cases hSame
      rw [List.intercalate_cons_of_ne_nil hSome,
        List.append_assoc, hDivision.joined]
      exact hFirst
    · exact hDivision.first other others hBehind hSome
  last := by
    intro other hSuffix
    rcases List.suffix_cons_iff.mp hSuffix with
      hSame | hBehind
    · exact (hDivision.ne_nil (List.cons.inj hSame).2.symm).elim
    · exact hDivision.last other hBehind

/- What is behind the first part is divided by the others. -/
theorem IsDivision.tail
    (hDivision : IsDivision between text (part :: parts))
    (hSome : parts ≠ []) :
    IsDivision between (between.intercalate parts) parts where
  ne_nil := hSome
  joined := rfl
  first other others hSuffix :=
    hDivision.first other others
      (hSuffix.trans (List.suffix_cons part parts))
  last other hSuffix :=
    hDivision.last other
      (hSuffix.trans (List.suffix_cons part parts))

/- The first of several parts ends at the first occurrence. -/
theorem IsDivision.head
    (hDivision : IsDivision between text (part :: parts))
    (hSome : parts ≠ []) :
    OccursFirst between text part.length := by
  have hFirst :=
    hDivision.first part parts List.suffix_rfl hSome
  rwa [hDivision.joined] at hFirst

/- Each text is divided by a text that is not empty. -/
theorem exists_isDivision
    (hBetween : between ≠ [])
    (text : List Char) :
    ∃ parts, IsDivision between text parts := by
  -- The rest behind the first occurrence is shorter.
  induction hLength : text.length using Nat.strongRecOn
    generalizing text with
  | ind length ih =>
      cases hFound : find? between text with
      | none =>
          exact ⟨[text],
            isDivision_single (find?_eq_none_iff.mp hFound)⟩
      | some offset =>
          have hFirst : OccursFirst between text offset :=
            find?_eq_some_iff.mp hFound
          rcases hFirst.1.split with ⟨part, rest, rfl, rfl⟩
          have hPositive :=
            List.length_pos_iff.mpr hBetween
          have hShorter : rest.length < length := by
            rw [List.length_append, List.length_append]
              at hLength
            omega
          rcases ih rest.length hShorter rest rfl with
            ⟨parts, hDivision⟩
          exact ⟨part :: parts, hDivision.cons hFirst⟩

/- A text is divided in one way. -/
theorem IsDivision.unique
    (hDivision : IsDivision between text parts)
    (hOther : IsDivision between text others) :
    parts = others := by
  induction parts generalizing text others with
  | nil => exact (hDivision.ne_nil rfl).elim
  | cons part rest ih =>
      rcases List.exists_cons_of_ne_nil hOther.ne_nil with
        ⟨part', rest', rfl⟩
      -- One part is not both the last and followed by others.
      by_cases hSome : rest = [] <;>
        by_cases hSome' : rest' = []
      · subst hSome hSome'
        have hText := hDivision.joined
        have hText' := hOther.joined
        rw [List.intercalate_singleton] at hText hText'
        rw [hText, hText']
      · subst hSome
        have hText := hDivision.joined
        rw [List.intercalate_singleton] at hText
        exact (hDivision.last part List.suffix_rfl _
          (hText ▸ (hOther.head hSome').1)).elim
      · subst hSome'
        have hText' := hOther.joined
        rw [List.intercalate_singleton] at hText'
        exact (hOther.last part' List.suffix_rfl _
          (hText' ▸ (hDivision.head hSome).1)).elim
      · have hLength :=
          (hDivision.head hSome).unique (hOther.head hSome')
        have hText :=
          hDivision.joined.trans hOther.joined.symm
        rw [List.intercalate_cons_of_ne_nil hSome,
          List.intercalate_cons_of_ne_nil hSome',
          List.append_assoc, List.append_assoc] at hText
        rcases List.append_inj hText hLength with
          ⟨rfl, hBehind⟩
        have hRest := List.append_cancel_left hBehind
        rw [ih (hDivision.tail hSome)
          (hRest ▸ hOther.tail hSome')]

end Text

end Spreadsheet

------------------------------------------------------------
-- Replacement In Parts
------------------------------------------------------------

namespace Spreadsheet

namespace Text

variable {old new text part rest : List Char}
variable {parts : List (List Char)}

/- What belongs to the last occurrence is passed over. -/
theorem replaceFrom_skip
    (skip : Nat)
    (text : List Char) :
    replaceFrom old new skip text =
      replaceFrom old new 0 (text.drop skip) := by
  induction text generalizing skip with
  | nil => rw [List.drop_nil, replaceFrom, replaceFrom]
  | cons c rest ih =>
      cases skip with
      | zero => rfl
      | succ skip =>
          rw [replaceFrom, List.drop_succ_cons, ih]

/- A text without occurrences is left as it is. -/
theorem replaceFrom_of_nowhere
    (hNowhere : ∀ offset, ¬ OccursAt old text offset) :
    replaceFrom old new 0 text = text := by
  induction text with
  | nil => rfl
  | cons c rest ih =>
      have hNotHere : ¬ old <+: c :: rest :=
        fun hBegins => hNowhere 0 (occursAt_zero.mpr hBegins)
      rw [replaceFrom, if_neg
        (hNotHere ∘ List.isPrefixOf_iff_prefix.mp),
        ih fun offset hOccurs =>
          hNowhere (offset + 1) (occursAt_succ.mpr hOccurs)]

/- The first occurrence is replaced, then those behind it. -/
theorem replaceFrom_of_first
    (hOld : old ≠ [])
    (hFirst :
      OccursFirst old (part ++ (old ++ rest)) part.length) :
    replaceFrom old new 0 (part ++ (old ++ rest)) =
      part ++ (new ++ replaceFrom old new 0 rest) := by
  induction part with
  | nil =>
      rcases List.exists_cons_of_ne_nil hOld with
        ⟨c, tail, rfl⟩
      have hHere : c :: tail <+: c :: (tail ++ rest) :=
        List.prefix_append (c :: tail) rest
      rw [List.nil_append, List.nil_append, List.cons_append,
        replaceFrom,
        if_pos (List.isPrefixOf_iff_prefix.mpr hHere),
        List.length_cons, Nat.add_sub_cancel,
        replaceFrom_skip, List.drop_left]
  | cons c part ih =>
      have hNotHere :
          ¬ old.isPrefixOf (c :: (part ++ (old ++ rest))) :=
        hFirst.not_begins ∘ List.isPrefixOf_iff_prefix.mp
      rw [List.cons_append, replaceFrom, if_neg hNotHere,
        ih hFirst.tail, List.cons_append]

/- Replacement keeps the parts and changes what is between. -/
theorem replaceAll_of_isDivision
    (hOld : old ≠ [])
    (hDivision : IsDivision old text parts) :
    replaceAll old new text = new.intercalate parts := by
  rw [replaceAll, if_neg (hOld ∘ List.isEmpty_iff.mp)]
  induction parts generalizing text with
  | nil => exact (hDivision.ne_nil rfl).elim
  | cons part rest ih =>
      by_cases hSome : rest = []
      · subst hSome
        have hText := hDivision.joined
        rw [List.intercalate_singleton] at hText ⊢
        rw [← hText]
        exact replaceFrom_of_nowhere
          (hDivision.last part List.suffix_rfl)
      · have hFirst := hDivision.head hSome
        rw [← hDivision.joined,
          List.intercalate_cons_of_ne_nil hSome,
          List.append_assoc] at hFirst ⊢
        rw [replaceFrom_of_first hOld hFirst,
          ih (hDivision.tail hSome),
          List.intercalate_cons_of_ne_nil hSome,
          List.append_assoc]

/- An empty text is replaced nowhere. -/
theorem replaceAll_nil
    (new text : List Char) :
    replaceAll [] new text = text :=
  if_pos rfl

/- A text between parts counts once for each but the last. -/
theorem length_intercalate
    (between : List Char)
    (hSome : parts ≠ []) :
    (between.intercalate parts).length =
      (parts.map List.length).sum +
        (parts.length - 1) * between.length := by
  induction parts with
  | nil => exact (hSome rfl).elim
  | cons part rest ih =>
      cases rest with
      | nil => simp
      | cons other rest =>
          rw [List.intercalate_cons_cons, List.length_append,
            List.length_append, ih (List.cons_ne_nil _ _)]
          simp only [List.map_cons, List.sum_cons,
            List.length_cons, Nat.add_sub_cancel, Nat.succ_mul]
          omega

end Text

end Spreadsheet
