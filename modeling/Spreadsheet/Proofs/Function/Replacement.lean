import Spreadsheet.Proofs.Function.Slices
import Spreadsheet.Proofs.Text.Replacement

/-
  The function that replaces one text in another.

  It replaces the leftmost occurrences that do not overlap,
  those that divide the text in the only way there is.  What
  it puts in is not looked at again, and it puts nothing into
  a text to replace the empty one.

  Key definitions include:
    * `Spreadsheet.Call.Replaced`

  Main results:
    * `Spreadsheet.Call.returns_substitute`
    * `Spreadsheet.Call.replaces_first_occurrences`
-/

------------------------------------------------------------
-- Replaced Occurrences
------------------------------------------------------------

namespace Spreadsheet

namespace Call

open Text (IsDivision OccursFirst)

/-
  A text is replaced between parts: the parts are returned
  with another text between them, and so many occurrences
  make the result longer or shorter.
-/
structure Replaced
    (t old new : String)
    (parts : List (List Char)) : Prop where
  returned :
    Returns .substitute [.text t, .text old, .text new]
      (.ofChars (new.toList.intercalate parts))
  length :
    ∃ length : Nat,
      Returns .len [.ofChars (new.toList.intercalate parts)]
          (.ofNat length) ∧
        (length : Int) =
          t.length +
            (parts.length - 1 : Nat) *
              ((new.length : Int) - old.length)

variable {t old new : String}
variable {parts : List (List Char)}

/- What is returned for texts. -/
theorem returns_substitute
    (t old new : String) :
    Returns .substitute [.text t, .text old, .text new]
      (.ofChars
        (Text.replaceAll old.toList new.toList t.toList)) :=
  rfl

/- Each occurrence changes the length by the difference. -/
theorem length_of_isDivision
    (hDivision : IsDivision old.toList t.toList parts) :
    ((new.toList.intercalate parts).length : Int) =
      t.length +
        (parts.length - 1 : Nat) *
          ((new.length : Int) - old.length) := by
  have hOld :=
    Text.length_intercalate old.toList hDivision.ne_nil
  have hNew :=
    Text.length_intercalate new.toList hDivision.ne_nil
  rw [hDivision.joined, String.length_toList,
    String.length_toList] at hOld
  rw [String.length_toList] at hNew
  rw [hNew, hOld]
  push_cast
  ring

/- The parts of a text are returned with another between. -/
theorem replaced_of_isDivision
    (hOld : old.toList ≠ [])
    (hDivision : IsDivision old.toList t.toList parts) :
    Replaced t old new parts where
  returned := by
    rw [← Text.replaceAll_of_isDivision hOld hDivision]
    exact returns_substitute t old new
  length := by
    refine ⟨_, returns_len _, ?_⟩
    rw [String.length_ofList]
    exact length_of_isDivision hDivision

/- A text is replaced by itself. -/
theorem returns_self
    (hOld : old.toList ≠ [])
    (hDivision : IsDivision old.toList t.toList parts) :
    Returns .substitute [.text t, .text old, .text old]
      (.text t) := by
  have hReplaced : Replaced t old old parts :=
    replaced_of_isDivision hOld hDivision
  have hReturned := hReplaced.returned
  rwa [hDivision.joined, Value.ofChars, String.ofList_toList]
    at hReturned

/-
  A text that is not empty divides another one in one way, and
  what is returned has these parts with the new text between.
-/
theorem replaces_first_occurrences
    (t new : String)
    {old : String}
    (hOld : old ≠ "") :
    (∃! parts, IsDivision old.toList t.toList parts) ∧
      (∀ parts, IsDivision old.toList t.toList parts →
        Replaced t old new parts) ∧
      Returns .substitute [.text t, .text old, .text old]
        (.text t) ∧
      Returns .substitute [.text t, .text "", .text new]
        (.text t) := by
  have hSome : old.toList ≠ [] :=
    hOld ∘ String.toList_eq_nil_iff.mp
  rcases Text.exists_isDivision hSome t.toList with
    ⟨parts, hDivision⟩
  have hEmpty := returns_substitute t "" new
  rw [String.toList_empty, Text.replaceAll_nil, Value.ofChars,
    String.ofList_toList] at hEmpty
  exact
    ⟨⟨parts, hDivision, fun _ hOther =>
        hOther.unique hDivision⟩,
      fun _ => replaced_of_isDivision hSome,
      returns_self hSome hDivision, hEmpty⟩

/- Of occurrences that overlap the first one is replaced. -/
theorem replaces_first_occurrences_overlapping :
    "aa" ≠ "" ∧
      IsDivision "aa".toList "caaab".toList
        [['c'], ['a', 'b']] ∧
      Replaced "caaab" "aa" "a" [['c'], ['a', 'b']] := by
  have hLast :
      IsDivision "aa".toList ['a', 'b'] [['a', 'b']] :=
    Text.isDivision_single (Text.find?_eq_none_iff.mp rfl)
  have hFirst :
      OccursFirst "aa".toList
        (['c'] ++ ("aa".toList ++ ['a', 'b'])) 1 :=
    Text.find?_eq_some_iff.mp rfl
  have hDivision :
      IsDivision "aa".toList "caaab".toList
        [['c'], ['a', 'b']] :=
    hLast.cons hFirst
  have hOld : "aa" ≠ "" := by decide
  exact ⟨hOld, hDivision,
    (replaces_first_occurrences "caaab" "a" hOld).2.1 _
      hDivision⟩

end Call

end Spreadsheet
