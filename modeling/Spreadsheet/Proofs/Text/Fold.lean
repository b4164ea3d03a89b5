import Mathlib
import Spreadsheet.Text.Case

/-
  Letter case within ASCII.

  On the characters of ASCII the mappings of case are those of
  the twenty-six letters.  A character from beyond stays there
  when it is folded, except for four letters: the capital I
  with a dot, the small one without, the long s and the sign
  for kelvins.

  Key definitions include:
    * `Spreadsheet.Text.foldingLetters`
    * `Spreadsheet.Text.IsPlain`

  Main results:
    * `Spreadsheet.Text.upperChar_of_ascii`
    * `Spreadsheet.Text.fold_of_ascii`
    * `Spreadsheet.Text.toNat_fold_lt_iff`
-/

------------------------------------------------------------
-- Characters Of ASCII
------------------------------------------------------------

namespace Spreadsheet

namespace Text

/- A valid code is that of its character. -/
theorem toNat_ofNat
    {code : Nat}
    (hValid : code.isValidChar) :
    (Char.ofNat code).toNat = code := by
  rw [Char.ofNat, dif_pos hValid]
  rfl

/- What holds of the first codes holds of their characters. -/
theorem forall_ascii
    {motive : Char → Prop}
    (hCodes : ∀ code < 128, motive (Char.ofNat code))
    {c : Char}
    (hAscii : c.toNat < 128) :
    motive c := by
  rw [← Char.ofNat_toNat c]
  exact hCodes c.toNat hAscii

/- Runs that begin beyond ASCII map none of its characters. -/
theorem runImage_of_ascii
    {run : CaseRun}
    {runs : List CaseRun}
    (hBeyond : ∀ other ∈ runs, 128 ≤ other.source.first)
    {c : Char}
    (hAscii : c.toNat < 128) :
    runImage (run :: runs) c = runImage [run] c := by
  have hNone :
      runs.findSome? (fun other => other.image? c.toNat) =
        none := by
    rw [List.findSome?_eq_none_iff]
    intro other hOther
    have hFirst := hBeyond other hOther
    rw [CaseRun.image?, if_neg (by omega)]
  simp only [runImage, List.findSome?_cons, hNone,
    List.findSome?_nil]

/- A table of codes beyond ASCII has none of its characters. -/
theorem lookup_of_ascii
    {α : Type}
    {table : List (Nat × α)}
    (hBeyond : ∀ entry ∈ table, 128 ≤ entry.1)
    {c : Char}
    (hAscii : c.toNat < 128) :
    table.lookup c.toNat = none := by
  rw [List.lookup_eq_none_iff]
  intro entry hEntry
  have hFirst := hBeyond entry hEntry
  rw [bne_iff_ne]
  omega

theorem upperChar_of_ascii
    {c : Char}
    (hAscii : c.toNat < 128) :
    upperChar c = [c.toUpper] := by
  have hRuns :
      upperRuns =
        ⟨⟨0x61, 0x7a⟩, 1, 0x41⟩ :: upperRuns.tail :=
    rfl
  rw [upperChar,
    lookup_of_ascii (by decide +kernel) hAscii, hRuns,
    runImage_of_ascii (by decide +kernel) hAscii]
  exact forall_ascii
    (motive := fun c =>
      [runImage [⟨⟨0x61, 0x7a⟩, 1, 0x41⟩] c] = [c.toUpper])
    (by decide +kernel) hAscii

/- Upper case is given to ASCII letter by letter. -/
theorem upper_of_ascii
    {text : List Char}
    (hAscii : ∀ c ∈ text, c.toNat < 128) :
    upper text = text.map Char.toUpper := by
  induction text with
  | nil => rfl
  | cons c rest ih =>
      rw [List.forall_mem_cons] at hAscii
      rw [upper, List.flatMap_cons, ← upper,
        upperChar_of_ascii hAscii.1, ih hAscii.2]
      rfl

theorem toNat_toLower_lt
    {c : Char}
    (hAscii : c.toNat < 128) :
    c.toLower.toNat < 128 :=
  forall_ascii (motive := fun c => c.toLower.toNat < 128)
    (by decide +kernel) hAscii

theorem fold_of_ascii
    {c : Char}
    (hAscii : c.toNat < 128) :
    fold c = c.toLower := by
  have hRuns :
      lowerRuns =
        ⟨⟨0x41, 0x5a⟩, 1, 0x61⟩ :: lowerRuns.tail :=
    rfl
  have hSmall : runImage lowerRuns c = c.toLower := by
    rw [hRuns, runImage_of_ascii (by decide +kernel) hAscii]
    exact forall_ascii
      (motive := fun c =>
        runImage [⟨⟨0x41, 0x5a⟩, 1, 0x61⟩] c = c.toLower)
      (by decide +kernel) hAscii
  have hDot : c ≠ dottedCapitalI := by
    rintro rfl
    revert hAscii
    decide
  have hMerge :
      foldMerges.lookup c.toLower.toNat = none :=
    lookup_of_ascii (by decide) (toNat_toLower_lt hAscii)
  simp only [fold, if_neg hDot, hSmall, hMerge]

end Text

end Spreadsheet

------------------------------------------------------------
-- Characters Beyond ASCII
------------------------------------------------------------

namespace Spreadsheet

namespace Text

/- Only letters of ASCII are put in capitals by themselves. -/
theorem toUpper_of_beyond
    {c : Char}
    (hBeyond : 128 ≤ c.toNat) :
    c.toUpper = c := by
  rw [Char.toUpper, dif_neg]
  rw [UInt32.le_iff_toNat_le, UInt32.le_iff_toNat_le]
  rintro ⟨-, hLast⟩
  exact Nat.not_le.mpr (Nat.lt_of_lt_of_le (by decide) hBeyond)
    hLast

/- The letters beyond ASCII whose folds are letters of it. -/
def foldingLetters : List Char :=
  [0x130, 0x131, 0x17f, 0x212a].map Char.ofNat

/-
  A code beyond ASCII that is none of the two small letters
  whose folds lie in it.
-/
def FoldsBeyond
    (code : Nat) : Prop :=
  128 ≤ code ∧ code ≠ 0x131 ∧ code ≠ 0x17f

/-
  From the first image to the last one, all codes are those of
  characters whose folds lie beyond ASCII.
-/
def CaseRun.MapsBeyond
    (run : CaseRun) : Prop :=
  let last := run.target + (run.source.last - run.source.first)
  (last < 0xd800 ∨ 0xdfff < run.target ∧ last < 0x110000) ∧
    128 ≤ run.target ∧
    (last < 0x131 ∨ 0x131 < run.target) ∧
    (last < 0x17f ∨ 0x17f < run.target)

/- Only the letters of ASCII and one more are mapped to it. -/
theorem mapsBeyond_of_mem_lowerRuns :
    ∀ run ∈ lowerRuns,
      run.source.last < 128 ∨
        (run.source.first = 0x212a ∧
          run.source.last = 0x212a) ∨
        run.MapsBeyond := by
  unfold CaseRun.MapsBeyond
  decide +kernel

/- Only two small letters are merged with letters of ASCII. -/
theorem beyond_of_mem_foldMerges :
    ∀ merge ∈ foldMerges,
      merge.1 = 0x131 ∨ merge.1 = 0x17f ∨
        128 ≤ (Char.ofNat merge.2).toNat := by
  decide +kernel

theorem CaseRun.MapsBeyond.image
    {run : CaseRun}
    (hMaps : run.MapsBeyond)
    {code image : Nat}
    (hImage : run.image? code = some image) :
    (Char.ofNat image).toNat = image ∧ FoldsBeyond image := by
  unfold CaseRun.MapsBeyond at hMaps
  unfold CaseRun.image? at hImage
  split at hImage
  · rename_i hInside
    cases hImage
    have hValid :
        (run.target + (code - run.source.first)).isValidChar := by
      unfold Nat.isValidChar
      omega
    refine ⟨toNat_ofNat hValid, ?_⟩
    unfold FoldsBeyond
    omega
  · cases hImage

/- What a character beyond ASCII is folded to lies beyond it. -/
theorem foldsBeyond_runImage
    {c : Char}
    (hBeyond : 128 ≤ c.toNat)
    (hPlain : c ∉ foldingLetters) :
    FoldsBeyond (runImage lowerRuns c).toNat := by
  unfold runImage
  split
  · rename_i image hImage
    rcases List.exists_of_findSome?_eq_some hImage with
      ⟨run, hRun, hCode⟩
    have hInside :
        run.source.first ≤ c.toNat ∧
          c.toNat ≤ run.source.last := by
      unfold CaseRun.image? at hCode
      split at hCode
      · omega
      · cases hCode
    rcases mapsBeyond_of_mem_lowerRuns run hRun with
      hLow | ⟨hFirst, hLast⟩ | hMaps
    · omega
    · have hKelvin : c = Char.ofNat 0x212a := by
        rw [← Char.ofNat_toNat c]
        exact congrArg Char.ofNat (by omega)
      exact absurd (by rw [hKelvin]; decide) hPlain
    · rcases hMaps.image hCode with ⟨hSame, hFolds⟩
      rw [hSame]
      exact hFolds
  · refine ⟨hBeyond, ?_, ?_⟩
    · intro hDotless
      refine hPlain ?_
      rw [← Char.ofNat_toNat c, hDotless]
      decide
    · intro hLong
      refine hPlain ?_
      rw [← Char.ofNat_toNat c, hLong]
      decide

theorem toNat_fold_lt_of_mem_foldingLetters :
    ∀ c ∈ foldingLetters, (fold c).toNat < 128 :=
  List.all_iff_forall_prop.mp (by decide +kernel)

/-
  The characters whose folds lie in ASCII are those of ASCII
  and the folding letters.
-/
theorem toNat_fold_lt_iff
    (c : Char) :
    (fold c).toNat < 128 ↔
      c.toNat < 128 ∨ c ∈ foldingLetters := by
  constructor
  · intro hFold
    apply Decidable.byContradiction
    intro hNeither
    rw [not_or, Nat.not_lt] at hNeither
    rcases hNeither with ⟨hBeyond, hPlain⟩
    rcases foldsBeyond_runImage hBeyond hPlain with
      ⟨hSmall, hDotless, hLong⟩
    have hDot : c ≠ dottedCapitalI := by
      rintro rfl
      exact hPlain (by decide)
    rw [fold, if_neg hDot] at hFold
    simp only at hFold
    split at hFold
    · rename_i code hLookup
      rcases List.lookup_eq_some_iff.mp hLookup with
        ⟨before, after, hMerges, -⟩
      have hMerge :
          ((runImage lowerRuns c).toNat, code) ∈
            foldMerges := by
        rw [hMerges]
        exact List.mem_append_right _ List.mem_cons_self
      rcases beyond_of_mem_foldMerges _ hMerge with
        hFirst | hFirst | hBeyond
      · exact hDotless hFirst
      · exact hLong hFirst
      · exact absurd hFold (Nat.not_lt.mpr hBeyond)
    · omega
  · rintro (hAscii | hFolding)
    · rw [fold_of_ascii hAscii]
      exact toNat_toLower_lt hAscii
    · exact toNat_fold_lt_of_mem_foldingLetters c hFolding

/- A text without any of the folding letters. -/
def IsPlain
    (text : List Char) : Prop :=
  ∀ c ∈ text, c ∉ foldingLetters

instance
    (text : List Char) :
    Decidable (IsPlain text) :=
  decidable_of_iff (text.all fun c => c ∉ foldingLetters)
    List.all_iff_forall_prop

theorem IsPlain.head
    {c : Char}
    {rest : List Char}
    (hPlain : IsPlain (c :: rest)) :
    c ∉ foldingLetters :=
  hPlain c List.mem_cons_self

theorem IsPlain.tail
    {c : Char}
    {rest : List Char}
    (hPlain : IsPlain (c :: rest)) :
    IsPlain rest :=
  fun other hOther =>
    hPlain other (List.mem_cons_of_mem c hOther)

theorem IsPlain.of_append_right
    {front rest : List Char}
    (hPlain : IsPlain (front ++ rest)) :
    IsPlain rest :=
  fun other hOther =>
    hPlain other (List.mem_append_right front hOther)

end Text

end Spreadsheet
