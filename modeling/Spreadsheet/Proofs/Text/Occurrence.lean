import Mathlib.Data.List.Infix
import Spreadsheet.Text.Search

/-
  First occurrences.

  A text occurs in another at an offset if the slice of its
  length there is the text.  The empty text occurs everywhere,
  also behind the last character.  A search finds the first
  occurrence from a start on, or there is none.

  Key definitions include:
    * `Spreadsheet.Text.OccursAt`

  Main results:
    * `Spreadsheet.Text.find?_eq_some_iff`
    * `Spreadsheet.Text.find?_eq_none_iff`
    * `Spreadsheet.Text.findFrom?_eq_some_iff`
    * `Spreadsheet.Text.findFrom?_eq_none_iff`
-/

------------------------------------------------------------
-- Occurrences
------------------------------------------------------------

namespace Spreadsheet

namespace Text

/- A text occurs in another at an offset that it has. -/
def OccursAt
    (needle text : List Char)
    (offset : Nat) : Prop :=
  offset ≤ text.length ∧
    slice text offset needle.length = needle

instance
    (needle text : List Char)
    (offset : Nat) :
    Decidable (OccursAt needle text offset) := by
  unfold OccursAt
  infer_instance

variable {needle text rest : List Char}
variable {c : Char}
variable {offset start : Nat}

/- Where a text occurs, the rest of the other begins with it. -/
theorem occursAt_iff_begins :
    OccursAt needle text offset ↔
      offset ≤ text.length ∧ needle <+: text.drop offset := by
  rw [OccursAt, slice, List.prefix_iff_eq_take, eq_comm]

theorem occursAt_zero :
    OccursAt needle text 0 ↔ needle <+: text := by
  rw [occursAt_iff_begins, List.drop_zero]
  exact and_iff_right (Nat.zero_le _)

/- Behind the first character a text occurs in the rest. -/
theorem occursAt_succ :
    OccursAt needle (c :: rest) (offset + 1) ↔
      OccursAt needle rest offset := by
  rw [OccursAt, OccursAt, slice, slice, List.drop_succ_cons,
    List.length_cons, Nat.add_le_add_iff_right]

/- What occurs behind a start occurs in what is behind it. -/
theorem occursAt_drop
    (hStart : start ≤ text.length) :
    OccursAt needle (text.drop start) offset ↔
      OccursAt needle text (offset + start) := by
  have hBound :
      offset ≤ text.length - start ↔
        offset + start ≤ text.length := by
    omega
  rw [OccursAt, OccursAt, slice, slice, List.drop_drop,
    List.length_drop, hBound, Nat.add_comm start offset]

end Text

end Spreadsheet

------------------------------------------------------------
-- First Occurrences
------------------------------------------------------------

namespace Spreadsheet

namespace Text

variable {needle text hay rest : List Char}
variable {c : Char}
variable {offset start : Nat}

/- At the end of a text only the empty text is found. -/
theorem find?_nil :
    find? needle [] =
      if OccursAt needle [] 0 then some 0 else none := by
  rw [find?]
  simp only [occursAt_zero, List.prefix_nil, List.isEmpty_iff]

/- What does not occur at once is looked for in the rest. -/
theorem find?_cons :
    find? needle (c :: rest) =
      if OccursAt needle (c :: rest) 0 then
        some 0
      else
        (find? needle rest).map (· + 1) := by
  rw [find?]
  simp only [occursAt_zero, List.isPrefixOf_iff_prefix]

/- A search is in vain if there is no occurrence at all. -/
theorem find?_eq_none_iff :
    find? needle text = none ↔
      ∀ offset, ¬ OccursAt needle text offset := by
  induction text with
  | nil =>
      rw [find?_nil]
      constructor
      · intro hNone offset hOccurs
        have hZero : offset = 0 := Nat.le_zero.mp hOccurs.1
        rw [if_pos (hZero ▸ hOccurs)] at hNone
        cases hNone
      · intro hNowhere
        exact if_neg (hNowhere 0)
  | cons c rest ih =>
      rw [find?_cons]
      constructor
      · intro hNone offset
        split at hNone
        · cases hNone
        · rename_i hNotHere
          cases offset with
          | zero => exact hNotHere
          | succ offset =>
              rw [occursAt_succ]
              exact ih.mp (Option.map_eq_none_iff.mp hNone)
                offset
      · intro hNowhere
        rw [if_neg (hNowhere 0), Option.map_eq_none_iff, ih]
        exact fun offset hOccurs =>
          hNowhere (offset + 1) (occursAt_succ.mpr hOccurs)

/- What a search finds is an occurrence and the first one. -/
theorem occursAt_of_find?
    (hFound : find? needle text = some offset) :
    OccursAt needle text offset ∧
      ∀ earlier < offset, ¬ OccursAt needle text earlier := by
  -- Each character in front of the occurrence is passed over.
  induction text generalizing offset with
  | nil =>
      rw [find?_nil] at hFound
      split at hFound
      · rename_i hHere
        cases hFound
        exact ⟨hHere, fun _ hNone => absurd hNone (by omega)⟩
      · cases hFound
  | cons c rest ih =>
      rw [find?_cons] at hFound
      split at hFound
      · rename_i hHere
        cases hFound
        exact ⟨hHere, fun _ hNone => absurd hNone (by omega)⟩
      · rename_i hNotHere
        rcases Option.map_eq_some_iff.mp hFound with
          ⟨behind, hRest, rfl⟩
        rcases ih hRest with ⟨hOccurs, hFirst⟩
        refine ⟨occursAt_succ.mpr hOccurs, ?_⟩
        intro earlier hEarlier
        cases earlier with
        | zero => exact hNotHere
        | succ earlier =>
            rw [occursAt_succ]
            exact hFirst earlier (Nat.lt_of_succ_lt_succ hEarlier)

/- A search finds the first occurrence. -/
theorem find?_eq_some_iff :
    find? needle text = some offset ↔
      OccursAt needle text offset ∧
        ∀ earlier < offset, ¬ OccursAt needle text earlier := by
  refine ⟨occursAt_of_find?, fun ⟨hOccurs, hFirst⟩ => ?_⟩
  cases hFound : find? needle text with
  | none => exact (find?_eq_none_iff.mp hFound offset hOccurs).elim
  | some other =>
      rcases occursAt_of_find? hFound with ⟨hOther, hOtherFirst⟩
      rcases lt_trichotomy other offset with
        hBefore | rfl | hBehind
      · exact (hFirst other hBefore hOther).elim
      · rfl
      · exact (hOtherFirst offset hBehind hOccurs).elim

/- From a start on, offsets are those in the rest and more. -/
theorem findFrom?_eq_some_iff :
    findFrom? needle hay start = some offset ↔
      start ≤ offset ∧ OccursAt needle hay offset ∧
        ∀ earlier, start ≤ earlier → earlier < offset →
          ¬ OccursAt needle hay earlier := by
  rw [findFrom?, Option.ite_none_right_eq_some,
    Option.map_eq_some_iff]
  constructor
  · rintro ⟨hStart, behind, hFound, rfl⟩
    rcases find?_eq_some_iff.mp hFound with ⟨hOccurs, hFirst⟩
    refine ⟨Nat.le_add_left start behind,
      (occursAt_drop hStart).mp hOccurs, ?_⟩
    intro earlier hFrom hEarlier hOther
    rw [← Nat.sub_add_cancel hFrom] at hOther
    exact hFirst (earlier - start) (by omega)
      ((occursAt_drop hStart).mpr hOther)
  · rintro ⟨hFrom, hOccurs, hFirst⟩
    have hStart : start ≤ hay.length := hFrom.trans hOccurs.1
    refine ⟨hStart, offset - start, find?_eq_some_iff.mpr
      ⟨?_, ?_⟩, Nat.sub_add_cancel hFrom⟩
    · rw [occursAt_drop hStart, Nat.sub_add_cancel hFrom]
      exact hOccurs
    · intro earlier hEarlier
      rw [occursAt_drop hStart]
      exact hFirst _ (Nat.le_add_left start earlier) (by omega)

/- A search from a start on is in vain if nothing is there. -/
theorem findFrom?_eq_none_iff :
    findFrom? needle hay start = none ↔
      ∀ offset, start ≤ offset →
        ¬ OccursAt needle hay offset := by
  rw [findFrom?]
  split
  · rename_i hStart
    rw [Option.map_eq_none_iff, find?_eq_none_iff]
    constructor
    · intro hNowhere offset hFrom hOccurs
      rw [← Nat.sub_add_cancel hFrom] at hOccurs
      exact hNowhere _ ((occursAt_drop hStart).mpr hOccurs)
    · intro hNowhere offset hOccurs
      exact hNowhere _ (Nat.le_add_left start offset)
        ((occursAt_drop hStart).mp hOccurs)
  · rename_i hBehind
    refine iff_of_true rfl fun offset hFrom hOccurs => ?_
    exact hBehind (hFrom.trans hOccurs.1)

end Text

end Spreadsheet
