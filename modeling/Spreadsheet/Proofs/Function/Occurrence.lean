import Spreadsheet.Proofs.Function.Slices
import Spreadsheet.Proofs.Text.Occurrence

/-
  The function that finds one text in another.

  It returns the first position from a start on at which the
  slice of the length of the one text is this text, and it
  rejects what has no such position.  That is so for each
  start that is a float, and for each natural number if the
  other text is short, since rounding does not bring a start
  back into it.

  Key definitions include:
    * `Spreadsheet.Call.HasAt`
    * `Spreadsheet.Call.FindsFirst`

  Main results:
    * `Spreadsheet.Call.start_of_length`
    * `Spreadsheet.Call.locate_cases`
    * `Spreadsheet.Call.finds_first`
-/

------------------------------------------------------------
-- Starts
------------------------------------------------------------

namespace Spreadsheet

namespace Call

open Number (IsExact ReadsAs overflow ofInt)

variable {call : Call}
variable {index start length : Nat}

/-
  A start is read so that it is in front of the same offsets
  within a length, or it is rejected and behind all of them.
-/
theorem start_of_length
    (hArgument :
      call.numberOr index (.number 1.0) = .ok (ofInt start))
    (hFirst : 1 ≤ start)
    (hStart : length + 1 < 2 ^ 53 ∨ IsExact start) :
    (∃ skipped,
        call.start index = .ok skipped ∧
          ∀ offset ≤ length,
            skipped ≤ offset ↔ start ≤ offset + 1) ∨
      call.start index =
          .error (.invalidStart call.function (ofInt start)) ∧
        length + 1 < start := by
  rcases lt_or_ge (start : ℚ) overflow with hBelow | hGreat
  · rcases start_ofNat hArgument hFirst hBelow with
      ⟨position, hRead, hReads⟩
    refine .inl ⟨position - 1, hRead, fun offset hOffset => ?_⟩
    by_cases hExact : IsExact start
    · rw [hReads.exact hExact, Nat.sub_le_iff_le_add]
    · -- Rounded starts are behind a short text both ways.
      have hShort := hStart.resolve_right hExact
      have hMany : 2 ^ 53 ≤ start := by
        by_contra hFew
        exact hExact (Number.isExact_of_lt (not_le.mp hFew))
      have hGreat := hReads.great hMany
      omega
  · have hShort :=
      hStart.resolve_right fun hExact =>
        absurd hExact.lt_overflow (not_lt.mpr hGreat)
    refine .inr ⟨start_of_overflow hArgument hGreat, ?_⟩
    by_contra hInside
    exact absurd
      (Number.natCast_lt_overflow
        ((not_lt.mp hInside).trans hShort.le))
      (not_lt.mpr hGreat)

end Call

end Spreadsheet

------------------------------------------------------------
-- First Positions
------------------------------------------------------------

namespace Spreadsheet

namespace Call

open Number (IsExact overflow ofInt)
open Text (OccursAt)

/- At a position a text has a slice that is another text. -/
def HasAt
    (needle hay : String)
    (position : Nat) : Prop :=
  Text.slice hay.toList (position - 1) needle.length =
    needle.toList

/-
  A text is found in another from a start on: at its first
  position, and it is rejected if it has none.
-/
structure FindsFirst
    (needle hay : String)
    (start : Nat) : Prop where
  answered :
    (∃ value,
      Returns .find
        [.text needle, .text hay, .ofNat start] value) ∨
      Rejects .find [.text needle, .text hay, .ofNat start]
  returned :
    ∀ value,
      Returns .find
          [.text needle, .text hay, .ofNat start] value →
        ∃ position,
          value = .ofNat position ∧
            start ≤ position ∧ position ≤ hay.length + 1 ∧
            HasAt needle hay position ∧
            ∀ earlier, start ≤ earlier → earlier < position →
              ¬ HasAt needle hay earlier
  rejected :
    Rejects .find [.text needle, .text hay, .ofNat start] ↔
      ∀ position,
        start ≤ position → position ≤ hay.length + 1 →
          ¬ HasAt needle hay position

variable {needle hay : String}
variable {start position : Nat}

/- Positions count from one, offsets from zero. -/
theorem hasAt_iff_occursAt
    (hInside : position ≤ hay.length + 1) :
    HasAt needle hay position ↔
      OccursAt needle.toList hay.toList (position - 1) := by
  rw [HasAt, OccursAt, String.length_toList,
    String.length_toList]
  exact (and_iff_right (by omega)).symm

/- What a search in some form answers, its start once read. -/
theorem locate_of_start
    (form : List Char → List Char)
    {function : Function}
    {first : Value}
    {skipped : Nat}
    (hRead :
      (on function [.text needle, .text hay, first]).start 2 =
        .ok skipped) :
    (on function [.text needle, .text hay, first]).locate form =
      match
        Text.findFrom? (form needle.toList) (form hay.toList)
          skipped with
      | some offset => .ok (.ofNat (offset + 1))
      | none =>
          .error (.notFound function
            (String.ofList (form needle.toList))) := by
  have hNeedle :
      (on function [.text needle, .text hay, first]).chars 0 =
        .ok needle.toList := rfl
  have hHay :
      (on function [.text needle, .text hay, first]).chars 1 =
        .ok hay.toList := rfl
  rw [locate, hNeedle, hHay, hRead]
  simp only [bind, Except.bind]
  cases Text.findFrom? (form needle.toList) (form hay.toList)
      skipped with
  | some offset => rfl
  | none => rfl

/- A search finds the first occurrence or is in vain. -/
theorem locate_cases
    (form : List Char → List Char)
    (function : Function)
    (needle hay : String)
    (hFirst : 1 ≤ start)
    (hStart :
      (form hay.toList).length + 1 < 2 ^ 53 ∨
        IsExact start) :
    let call :=
      on function [.text needle, .text hay, .ofNat start]
    let Occurs :=
      OccursAt (form needle.toList) (form hay.toList)
    (∃ offset,
        call.locate form = .ok (.ofNat (offset + 1)) ∧
          start ≤ offset + 1 ∧ Occurs offset ∧
          ∀ earlier, start ≤ earlier + 1 → earlier < offset →
            ¬ Occurs earlier) ∨
      (∃ failure,
        call.locate form = .error failure ∧
          failure.code = "#VALUE!") ∧
        ∀ offset, start ≤ offset + 1 → ¬ Occurs offset := by
  intro call Occurs
  have hArgument :
      call.numberOr 2 (.number 1.0) = .ok (ofInt start) := rfl
  rcases start_of_length hArgument hFirst hStart with
    ⟨skipped, hRead, hSkipped⟩ | ⟨hRead, hBehind⟩
  · have hLocate := locate_of_start form hRead
    cases hFound :
        Text.findFrom? (form needle.toList) (form hay.toList)
          skipped with
    | some offset =>
        left
        rw [hFound] at hLocate
        rcases Text.findFrom?_eq_some_iff.mp hFound with
          ⟨hFrom, hOccurs, hEarliest⟩
        refine ⟨offset, hLocate,
          (hSkipped offset hOccurs.1).mp hFrom, hOccurs, ?_⟩
        intro earlier hStarted hEarlier hOther
        exact hEarliest earlier
          ((hSkipped earlier hOther.1).mpr hStarted)
          hEarlier hOther
    | none =>
        right
        rw [hFound] at hLocate
        rw [Text.findFrom?_eq_none_iff] at hFound
        refine ⟨⟨_, hLocate, rfl⟩, ?_⟩
        intro offset hStarted hOccurs
        exact hFound offset
          ((hSkipped offset hOccurs.1).mpr hStarted) hOccurs
  · right
    have hLocate :
        call.locate form =
          .error (.invalidStart function (ofInt start)) := by
      rw [locate, hRead]
      rfl
    refine ⟨⟨_, hLocate, rfl⟩, ?_⟩
    intro offset hStarted hOccurs
    have hInside := hOccurs.1
    omega

/- Once a start is read a search finds the first position. -/
theorem findsFirst_of_start
    (needle hay : String)
    (hFirst : 1 ≤ start)
    (hStart : hay.length + 1 < 2 ^ 53 ∨ IsExact start) :
    FindsFirst needle hay start := by
  rw [← String.length_toList] at hStart
  rcases locate_cases id .find needle hay hFirst hStart with
    ⟨offset, hFind, hFrom, hOccurs, hEarliest⟩ |
      ⟨⟨failure, hFind, hCode⟩, hNowhere⟩
  · have hReturns :
        Returns .find [.text needle, .text hay, .ofNat start]
          (.ofNat (offset + 1)) :=
      congrArg Answer.settled hFind
    have hOffset : offset + 1 ≤ hay.length + 1 := by
      rw [← String.length_toList]
      exact Nat.succ_le_succ hOccurs.1
    have hHas : HasAt needle hay (offset + 1) :=
      (hasAt_iff_occursAt hOffset).mpr hOccurs
    constructor
    case answered => exact .inl ⟨_, hReturns⟩
    case returned =>
      intro value hValue
      refine ⟨offset + 1, hValue.unique hReturns, hFrom,
        hOffset, hHas, ?_⟩
      intro earlier hStarted hEarlier hOther
      rw [hasAt_iff_occursAt (by omega)] at hOther
      exact hEarliest (earlier - 1) (by omega) (by omega) hOther
    case rejected =>
      refine iff_of_false hReturns.not_rejects fun hNowhere => ?_
      exact hNowhere (offset + 1) hFrom hOffset hHas
  · have hRejects :
        Rejects .find [.text needle, .text hay, .ofNat start] :=
      ⟨failure, congrArg Answer.settled hFind, hCode⟩
    constructor
    case answered => exact .inr hRejects
    case returned =>
      intro value hValue
      exact (hValue.not_rejects hRejects).elim
    case rejected =>
      refine iff_of_true hRejects ?_
      intro position hStarted hInside hHas
      rw [hasAt_iff_occursAt hInside] at hHas
      exact hNowhere (position - 1) (by omega) hHas

/- What a text has at a position is asked for by its length. -/
theorem hasAt_iff_mid
    (hShort : hay.length < 2 ^ 53)
    (hFirst : 1 ≤ position)
    (hInside : position ≤ hay.length + 1) :
    HasAt needle hay position ↔
      Returns .mid
        [.text hay, .ofNat position, .ofNat needle.length]
        (.text needle) := by
  rcases lt_or_ge (needle.length : ℚ) overflow with
    hBelow | hGreat
  · have hMid :=
      returns_mid hShort hFirst
        (Number.natCast_lt_overflow (by omega)) hBelow
    constructor
    · intro hHas
      rw [hHas, Value.ofChars, String.ofList_toList] at hMid
      exact hMid
    · intro hReturns
      have hSame := Value.text.inj (hMid.unique hReturns)
      have hChars := congrArg String.toList hSame
      rwa [String.toList_ofList] at hChars
  · -- Such a text is longer than the other one.
    refine iff_of_false ?_ fun hReturns =>
      hReturns.not_rejects (rejects_mid hFirst (.inr hGreat))
    intro hHas
    have hLength := congrArg List.length hHas
    rw [Text.slice, List.length_take, List.length_drop,
      String.length_toList, String.length_toList] at hLength
    exact absurd
      (Number.natCast_lt_overflow (by omega))
      (not_lt.mpr hGreat)

/- The empty text is found at the start. -/
theorem returns_start_of_empty
    (hFirst : 1 ≤ start)
    (hStart : hay.length + 1 < 2 ^ 53 ∨ IsExact start)
    (hInside : start ≤ hay.length + 1) :
    Returns .find [.text "", .text hay, .ofNat start]
      (.ofNat start) := by
  have hHas : HasAt "" hay start := List.take_zero
  have hFinds := findsFirst_of_start "" hay hFirst hStart
  rcases hFinds.answered with ⟨value, hReturns⟩ | hRejects
  · rcases hFinds.returned value hReturns with
      ⟨position, rfl, hFrom, -, -, hEarliest⟩
    rcases hFrom.eq_or_lt with rfl | hBehind
    · exact hReturns
    · exact (hEarliest start (le_refl start) hBehind hHas).elim
  · exact (hFinds.rejected.mp hRejects start (le_refl start)
      hInside hHas).elim

/-
  A text is found at its first position from a start on, and
  rejected if there is none.  In a text that is not too long
  the positions are those at which the other functions see it,
  and the empty text has all of them.
-/
theorem finds_first
    (needle hay : String)
    (start : Nat)
    (hFirst : 1 ≤ start)
    (hStart : hay.length + 1 < 2 ^ 53 ∨ IsExact start) :
    FindsFirst needle hay start ∧
      (hay.length < 2 ^ 53 →
        ∃ length,
          Returns .len [.text needle] length ∧
            ∀ position,
              1 ≤ position → position ≤ hay.length + 1 →
                (HasAt needle hay position ↔
                  Returns .mid
                    [.text hay, .ofNat position, length]
                    (.text needle))) ∧
      (start ≤ hay.length + 1 →
        Returns .find [.text "", .text hay, .ofNat start]
          (.ofNat start)) :=
  ⟨findsFirst_of_start needle hay hFirst hStart,
    fun hShort => ⟨_, returns_len needle,
      fun _ => hasAt_iff_mid hShort⟩,
    returns_start_of_empty hFirst hStart⟩

/- A syllable behind its first occurrence. -/
theorem finds_first_syllable :
    1 ≤ 3 ∧ "banana".length + 1 < 2 ^ 53 ∧
      FindsFirst "an" "banana" 3 ∧
      Returns .find [.text "", .text "banana", .ofNat 3]
        (.ofNat 3) := by
  have hFinds :=
    finds_first "an" "banana" 3 (by decide) (.inl (by decide))
  exact ⟨by decide, by decide, hFinds.1,
    hFinds.2.2 (by decide)⟩

end Call

end Spreadsheet
