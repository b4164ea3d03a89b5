import Spreadsheet.Proofs.Function.Occurrence
import Spreadsheet.Proofs.Text.Lower

/-
  The function that finds one text in another in either case.

  It is the function that finds one text in another, asked
  about both in lower case.  So the positions that it returns
  are positions in lower case.  They are positions in the text
  itself as long as no letter in front of them becomes longer,
  and the slice there becomes the other text if it is as long
  as this one then and keeps its sigmas.

  Key definitions include:
    * `Spreadsheet.Call.lowered`
    * `Spreadsheet.Call.Matches`
    * `Spreadsheet.Call.ShowsMatch`
    * `Spreadsheet.Call.SearchesLower`

  Main results:
    * `Spreadsheet.Call.code_search`
    * `Spreadsheet.Call.matches_iff`
    * `Spreadsheet.Call.searches_lower`
    * `Spreadsheet.Call.search_beyond_dotted`
-/

------------------------------------------------------------
-- Searches As Finds
------------------------------------------------------------

namespace Spreadsheet

namespace Call

/- A text in lower case. -/
def lowered
    (t : String) :
    String :=
  String.ofList (Text.lower t.toList)

theorem toList_lowered
    (t : String) :
    (lowered t).toList = Text.lower t.toList :=
  String.toList_ofList

theorem returns_lower
    (t : String) :
    Returns .lower [.text t] (.text (lowered t)) :=
  rfl

variable {needle hay : String}
variable {first : Value}

/- A start is read in the same way for each function. -/
theorem code_start
    (function other : Function)
    (needle hay needle' hay' : String)
    (first : Value) :
    ((on function
        [.text needle, .text hay, first]).start 2).mapError
          Failure.code =
      ((on other
        [.text needle', .text hay', first]).start 2).mapError
          Failure.code := by
  have hArgument :
      ∀ function needle hay,
        (on function [.text needle, .text hay, first]).numberOr
          2 (.number 1.0) = first.toNumber :=
    fun _ _ _ => rfl
  simp only [start, hArgument, bind, Except.bind]
  cases first.toNumber with
  | error failure => rfl
  | ok x =>
      dsimp only
      cases Number.truncate? x with
      | none => rfl
      | some n =>
          by_cases hLess : x < 1.0
          · simp only [hLess, if_true]
            rfl
          · simp only [hLess, if_false]

/- What a search shows for the offset that it finds, if any. -/
def shownAt :
    Option Nat → Except String Value
  | some offset => .ok (.ofNat (offset + 1))
  | none => .error "#VALUE!"

/- What a search shows, depending on its start. -/
theorem code_locate
    (form : List Char → List Char)
    (function : Function)
    (needle hay : String)
    (first : Value) :
    let call := on function [.text needle, .text hay, first]
    (call.locate form).mapError Failure.code =
      (call.start 2).mapError Failure.code >>= fun skipped =>
        shownAt
          (Text.findFrom? (form needle.toList)
            (form hay.toList) skipped) := by
  intro call
  cases hRead : call.start 2 with
  | error failure =>
      have hLocate : call.locate form = .error failure := by
        rw [locate, hRead]
        rfl
      rw [hLocate]
      rfl
  | ok skipped =>
      rw [locate_of_start form hRead]
      change _ = shownAt
        (Text.findFrom? (form needle.toList)
          (form hay.toList) skipped)
      cases Text.findFrom? (form needle.toList)
          (form hay.toList) skipped with
      | none => rfl
      | some offset => rfl

/- A search in either case is one in lower case. -/
theorem code_search
    (needle hay : String)
    (first : Value) :
    (on .search
        [.text needle, .text hay, first]).search.mapError
          Failure.code =
      (on .find
        [.text (lowered needle), .text (lowered hay),
          first]).find.mapError Failure.code := by
  rw [search, find, code_locate, code_locate, toList_lowered,
    toList_lowered,
    code_start .search .find needle hay (lowered needle)
      (lowered hay)]
  rfl

variable {function : Function}
variable {values : List Value}
variable {value : Value}
variable {result : Except Failure Value}

/- What a function returns and rejects is what it shows. -/
theorem returns_iff_code
    (hAnswer :
      (on function values).answer = .settled result) :
    Returns function values value ↔
      result.mapError Failure.code = .ok value := by
  rw [Returns, hAnswer, Answer.settled.injEq]
  cases result with
  | error failure => simp [Except.mapError]
  | ok found => simp [Except.mapError]

theorem rejects_iff_code
    (hAnswer :
      (on function values).answer = .settled result) :
    Rejects function values ↔
      result.mapError Failure.code = .error "#VALUE!" := by
  simp only [Rejects, hAnswer, Answer.settled.injEq]
  cases result with
  | error failure => simp [Except.mapError]
  | ok found => simp [Except.mapError]

/- Both find the same or reject the same. -/
theorem returns_search_iff :
    Returns .search [.text needle, .text hay, first] value ↔
      Returns .find
        [.text (lowered needle), .text (lowered hay), first]
        value := by
  rw [returns_iff_code rfl, returns_iff_code rfl]
  exact Iff.of_eq (congrArg (· = _)
    (code_search needle hay first))

theorem rejects_search_iff :
    Rejects .search [.text needle, .text hay, first] ↔
      Rejects .find
        [.text (lowered needle), .text (lowered hay),
          first] := by
  rw [rejects_iff_code rfl, rejects_iff_code rfl]
  exact Iff.of_eq (congrArg (· = _)
    (code_search needle hay first))

end Call

end Spreadsheet

------------------------------------------------------------
-- Positions In The Text Itself
------------------------------------------------------------

namespace Spreadsheet

namespace Call

open Number (IsExact overflow)
open Text (capitalSigma dottedCapitalI)

/- What a text has at a position is another one up to case. -/
def Matches
    (needle hay : String)
    (position : Nat) : Prop :=
  Text.lower
      (Text.slice hay.toList (position - 1) needle.length) =
    Text.lower needle.toList

/-
  What a text has at a position is as long as another one in
  lower case, and keeps its sigmas there.
-/
def Fits
    (needle hay : String)
    (position : Nat) : Prop :=
  let part :=
    Text.slice hay.toList (position - 1) needle.length
  (Text.lower part).length = (lowered needle).length ∧
    Text.KeepsSigmas (hay.toList.take (position - 1)).reverse
      part (hay.toList.drop (position - 1 + needle.length))

/- The other functions show that a text matches another. -/
def ShowsMatch
    (needle hay : String)
    (position : Nat) : Prop :=
  ∃ length part small,
    Returns .len [.text needle] length ∧
      Returns .mid [.text hay, .ofNat position, length] part ∧
      Returns .lower [part] small ∧
      Returns .lower [.text needle] small

/-
  How a text is searched for in another one from a start on:
  it is found in lower case.  A position that no longer letter
  is in front of is one of the text itself, and the text there
  matches if it fits.  In plain texts it always does.
-/
structure SearchesLower
    (needle hay : String)
    (start : Nat) : Prop where
  found :
    ∀ value,
      Returns .search
          [.text needle, .text hay, .ofNat start] value ↔
        Returns .find
          [.text (lowered needle), .text (lowered hay),
            .ofNat start] value
  rejected :
    Rejects .search
        [.text needle, .text hay, .ofNat start] ↔
      Rejects .find
        [.text (lowered needle), .text (lowered hay),
          .ofNat start]
  first : FindsFirst (lowered needle) (lowered hay) start
  placed :
    ∀ value,
      Returns .search
          [.text needle, .text hay, .ofNat start] value →
        ∃ position,
          value = .ofNat position ∧ start ≤ position ∧
            position ≤ (lowered hay).length + 1 ∧
            (dottedCapitalI ∉
                hay.toList.take (position - 1) →
              position ≤ hay.length + 1 ∧
                (Matches needle hay position ↔
                  Fits needle hay position))
  plain :
    dottedCapitalI ∉ needle.toList →
    dottedCapitalI ∉ hay.toList →
    capitalSigma ∉ hay.toList →
      ∀ value,
        Returns .search
            [.text needle, .text hay, .ofNat start] value →
          ∃ position,
            value = .ofNat position ∧ start ≤ position ∧
              position ≤ hay.length + 1 ∧
              Matches needle hay position
  shown :
    (lowered hay).length < 2 ^ 53 →
      ∀ position,
        1 ≤ position → position ≤ hay.length + 1 →
          (Matches needle hay position ↔
            ShowsMatch needle hay position)

variable {needle hay : String}
variable {position start : Nat}

/- Positions in lower case are those of occurrences there. -/
theorem hasAt_lowered_iff
    (hInside : position ≤ (lowered hay).length + 1) :
    HasAt (lowered needle) (lowered hay) position ↔
      Text.OccursAt (Text.lower needle.toList)
        (Text.lower hay.toList) (position - 1) := by
  rw [hasAt_iff_occursAt hInside, toList_lowered,
    toList_lowered]

/- Behind no longer letter such a position is in the text. -/
theorem matches_iff
    (hInside : position ≤ (lowered hay).length + 1)
    (hHas : HasAt (lowered needle) (lowered hay) position)
    (hPlain :
      dottedCapitalI ∉ hay.toList.take (position - 1)) :
    position ≤ hay.length + 1 ∧
      (Matches needle hay position ↔
        Fits needle hay position) := by
  have hOccurs := (hasAt_lowered_iff hInside).mp hHas
  have hOffset := Text.le_length_of_lower hPlain hOccurs.1
  rw [String.length_toList] at hOffset
  refine ⟨by omega, ?_⟩
  rw [Matches, Fits,
    ← String.length_toList (s := lowered needle),
    toList_lowered]
  exact Text.lower_slice_eq_iff hPlain hOccurs _

/- In plain texts what is found matches. -/
theorem matches_of_plain
    (hInside : position ≤ (lowered hay).length + 1)
    (hHas : HasAt (lowered needle) (lowered hay) position)
    (hNeedle : dottedCapitalI ∉ needle.toList)
    (hHay : dottedCapitalI ∉ hay.toList)
    (hSigma : capitalSigma ∉ hay.toList) :
    position ≤ hay.length + 1 ∧
      Matches needle hay position := by
  have hFront :
      dottedCapitalI ∉ hay.toList.take (position - 1) :=
    fun hMember => hHay (List.mem_of_mem_take hMember)
  have hOccurs := (hasAt_lowered_iff hInside).mp hHas
  refine ⟨(matches_iff hInside hHas hFront).1, ?_⟩
  rw [Matches, ← String.length_toList]
  exact Text.lower_slice_of_plain hHay hSigma hNeedle hOccurs

/- A text is not shorter in lower case. -/
theorem length_le_lowered
    (t : String) :
    t.length ≤ (lowered t).length := by
  rw [← String.length_toList, ← String.length_toList,
    toList_lowered, Text.length_lower]
  exact Nat.le_add_right _ _

/- No part of a text is longer in lower case than the text. -/
theorem length_lower_slice_le
    (hay : String)
    (offset count : Nat) :
    (Text.lower (Text.slice hay.toList offset count)).length ≤
      (lowered hay).length := by
  have hPart :
      (Text.slice hay.toList offset count).Sublist
        hay.toList :=
    (List.take_sublist _ _).trans (List.drop_sublist _ _)
  rw [← String.length_toList, toList_lowered,
    Text.length_lower, Text.length_lower]
  exact Nat.add_le_add hPart.length_le (hPart.count_le _)

/- The other functions show whether the texts match. -/
theorem matches_iff_shown
    (hShort : (lowered hay).length < 2 ^ 53)
    (hFirst : 1 ≤ position)
    (hInside : position ≤ hay.length + 1) :
    Matches needle hay position ↔
      ShowsMatch needle hay position := by
  have hHay : hay.length < 2 ^ 53 :=
    (length_le_lowered hay).trans_lt hShort
  have hPosition : (position : ℚ) < overflow :=
    Number.natCast_lt_overflow (by omega)
  constructor
  · intro hMatches
    have hLength := congrArg List.length hMatches
    have hBound :=
      length_lower_slice_le hay (position - 1) needle.length
    have hNeedle := length_le_lowered needle
    rw [← String.length_toList (s := lowered needle),
      toList_lowered, ← hLength] at hNeedle
    have hCount : (needle.length : ℚ) < overflow :=
      Number.natCast_lt_overflow (by omega)
    refine ⟨_, _, _, returns_len needle,
      returns_mid hHay hFirst hPosition hCount,
      returns_lower _, ?_⟩
    rw [lowered, String.toList_ofList, hMatches]
    exact returns_lower needle
  · rintro ⟨length, part, small, hLength, hMid, hPart,
      hNeedle⟩
    cases hLength.unique (returns_len needle)
    rcases lt_or_ge (needle.length : ℚ) overflow with
      hCount | hGreat
    · cases hMid.unique
        (returns_mid hHay hFirst hPosition hCount)
      cases hPart.unique (returns_lower _)
      have hSame :=
        Value.text.inj (hNeedle.unique (returns_lower needle))
      have hChars := congrArg String.toList hSame
      rwa [toList_lowered, toList_lowered,
        String.toList_ofList] at hChars
    · exact absurd (rejects_mid hFirst (.inr hGreat))
        hMid.not_rejects

/-
  A search in either case finds what is found in lower case.
  Its positions are those of the lower case, and they are
  those of the text itself if no longer letter is in front.
-/
theorem searches_lower
    (needle hay : String)
    (start : Nat)
    (hFirst : 1 ≤ start)
    (hStart :
      (lowered hay).length + 1 < 2 ^ 53 ∨ IsExact start) :
    SearchesLower needle hay start := by
  have hFinds :=
    findsFirst_of_start (lowered needle) (lowered hay) hFirst
      hStart
  constructor
  case found => exact fun value => returns_search_iff
  case rejected => exact rejects_search_iff
  case first => exact hFinds
  case placed =>
    intro value hValue
    rcases hFinds.returned value
      (returns_search_iff.mp hValue) with
      ⟨position, rfl, hFrom, hInside, hHas, -⟩
    exact ⟨position, rfl, hFrom, hInside,
      matches_iff hInside hHas⟩
  case plain =>
    intro hNeedle hHay hSigma value hValue
    rcases hFinds.returned value
      (returns_search_iff.mp hValue) with
      ⟨position, rfl, hFrom, hInside, hHas, -⟩
    rcases matches_of_plain hInside hHas hNeedle hHay hSigma
      with ⟨hPosition, hMatches⟩
    exact ⟨position, rfl, hFrom, hPosition, hMatches⟩
  case shown =>
    exact fun hShort position => matches_iff_shown hShort

/- A syllable in another case behind its first occurrence. -/
theorem searches_lower_syllable :
    1 ≤ 3 ∧ (lowered "Banana").length + 1 < 2 ^ 53 ∧
      SearchesLower "AN" "Banana" 3 := by
  have hShort : (lowered "Banana").length + 1 < 2 ^ 53 := by
    decide +kernel
  exact ⟨by decide, hShort,
    searches_lower "AN" "Banana" 3 (by decide) (.inl hShort)⟩

/- A small letter behind two capital ones with a dot. -/
def dotted : String :=
  String.ofList [dottedCapitalI, dottedCapitalI, 'b']

/-
  The letter is the third one, but it is found behind the end
  of the text, where the other functions show no match.
-/
theorem search_beyond_dotted :
    Returns .search [.text "b", .text dotted, .ofNat 1]
        (.ofNat 5) ∧
      dotted.length + 1 < 5 ∧
      ¬ ShowsMatch "b" dotted 5 ∧
      ShowsMatch "b" dotted 3 := by
  have hShort : (lowered dotted).length < 2 ^ 53 := by
    decide +kernel
  have hFound :
      (on .search [.text "b", .text dotted,
        .ofNat 1]).search.mapError Failure.code =
          .ok (.ofNat 5) := by
    decide +kernel
  have hThird : Matches "b" dotted 3 := by
    rw [Matches]
    decide +kernel
  have hNothing :
      Returns .mid [.text dotted, .ofNat 5, .ofNat 1]
        (.text "") := by
    rw [returns_iff_code rfl]
    decide +kernel
  refine ⟨(returns_iff_code rfl).mpr hFound,
    by decide +kernel, ?_,
    (matches_iff_shown hShort (by decide)
      (by decide +kernel)).mp hThird⟩
  rintro ⟨length, part, small, hLength, hMid, hPart, hNeedle⟩
  cases hLength.unique (returns_len "b")
  cases hMid.unique hNothing
  cases hPart.unique (returns_lower "")
  have hSame := hNeedle.unique (returns_lower "b")
  revert hSame
  decide +kernel

end Call

end Spreadsheet
