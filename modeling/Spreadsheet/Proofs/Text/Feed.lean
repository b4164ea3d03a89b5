import Spreadsheet.Text.Blank
import Spreadsheet.Text.Utf8

/-
  Texts cut at line feeds.

  A line feed is a byte of its own whatever stands in front of
  it: a character that is not complete ends there.  It also
  ends every line, so that bytes which are no text and lines
  which are none leave what is behind the next line feed as it
  is.

  Key definitions include:
    * `Spreadsheet.Text.GoesOnBeyond`

  Main results:
    * `Spreadsheet.Text.decode_append_feed`
    * `Spreadsheet.Text.lines_append_feed`
-/

------------------------------------------------------------
-- Bytes Behind A Line Feed
------------------------------------------------------------

namespace Spreadsheet

namespace Text

/- A character that was begun goes on only beyond ASCII. -/
def GoesOnBeyond
    (state : Option PartialChar) : Prop :=
  ∀ begun ∈ state, 0x80 ≤ begun.low

theorem goesOnBeyond_none :
    GoesOnBeyond none :=
  fun _ hBegun => nomatch hBegun

theorem goesOnBeyond_some
    {begun : PartialChar}
    (hLow : 0x80 ≤ begun.low) :
    GoesOnBeyond (some begun) := by
  intro other hOther
  rwa [← Option.mem_some_iff.mp hOther]

theorem goesOnBeyond_start?
    (byte : Nat) :
    GoesOnBeyond (PartialChar.start? byte) := by
  intro begun hBegun
  grind [PartialChar.start?]

theorem goesOnBeyond_decodeFresh
    (byte : Nat) :
    GoesOnBeyond (decodeFresh byte).2 := by
  have hStart := goesOnBeyond_start? byte
  unfold decodeFresh
  split
  · exact goesOnBeyond_none
  · split
    · rename_i begun hBegun
      rw [hBegun] at hStart
      exact hStart
    · exact goesOnBeyond_none

/- So it is with every byte that is read. -/
theorem goesOnBeyond_decodeByte
    (state : Option PartialChar)
    (byte : Nat) :
    GoesOnBeyond (decodeByte state byte).2 := by
  unfold decodeByte
  split
  · exact goesOnBeyond_decodeFresh byte
  · split
    · simp only
      split
      · exact goesOnBeyond_none
      · exact goesOnBeyond_some (Nat.le_refl 0x80)
    · exact goesOnBeyond_decodeFresh byte

theorem goesOnBeyond_foldl
    (bytes : List UInt8)
    {decoding : Decoding}
    (hState : GoesOnBeyond decoding.state) :
    GoesOnBeyond
      (bytes.foldl Decoding.read decoding).state := by
  induction bytes generalizing decoding with
  | nil => exact hState
  | cons byte rest ih =>
      exact ih (goesOnBeyond_decodeByte decoding.state _)

/- What was read before stays in front of what is read. -/
theorem finish_foldl
    (bytes : List UInt8)
    (done : List Char)
    (state : Option PartialChar) :
    (bytes.foldl Decoding.read ⟨done, state⟩).finish =
      done.reverse ++
        (bytes.foldl Decoding.read ⟨[], state⟩).finish := by
  induction bytes generalizing done state with
  | nil =>
      cases state with
      | none => simp [Decoding.finish]
      | some begun => simp [Decoding.finish]
  | cons byte rest ih =>
      simp only [List.foldl_cons, Decoding.read]
      rw [ih, ih (_ ++ [])]
      simp

/- A line feed ends a character that is not complete. -/
theorem read_feed
    {decoding : Decoding}
    (hState : GoesOnBeyond decoding.state) :
    decoding.read 10 =
      ⟨'\n' :: decoding.finish.reverse, none⟩ := by
  rcases decoding with ⟨done, state⟩
  cases state with
  | none =>
      simp only [Decoding.finish, List.reverse_reverse]
      rfl
  | some begun =>
      have hLow : 0x80 ≤ begun.low := hState begun rfl
      have hOutside :
          ¬(begun.low ≤ 10 ∧ 10 ≤ begun.high) := by
        omega
      have hByte : (10 : UInt8).toNat = 10 := rfl
      simp only [Decoding.read, decodeByte, hByte,
        if_neg hOutside, Decoding.finish,
        List.reverse_reverse]
      rfl

/- What is behind a line feed is read by itself. -/
theorem decode_append_feed
    (bytes rest : List UInt8) :
    decode (bytes ++ 10 :: rest) =
      decode bytes ++ '\n' :: decode rest := by
  have hState :
      GoesOnBeyond
        (bytes.foldl Decoding.read Decoding.start).state :=
    goesOnBeyond_foldl bytes goesOnBeyond_none
  unfold decode
  rw [List.foldl_append, List.foldl_cons, read_feed hState,
    finish_foldl, List.reverse_cons, List.reverse_reverse,
    List.append_assoc]
  rfl

end Text

end Spreadsheet

------------------------------------------------------------
-- Lines Behind A Line Feed
------------------------------------------------------------

namespace Spreadsheet

namespace Text

theorem linesFrom_append_feed
    (current text rest : List Char) :
    linesFrom current (text ++ '\n' :: rest) =
      linesFrom current (text ++ ['\n']) ++
        linesFrom [] rest := by
  fun_induction linesFrom current text with
  | case1 current => rfl
  | case2 current => rfl
  | case3 current text ih =>
      simp only [List.cons_append, linesFrom, ih]
  | case4 current c text hApart hEnd ih =>
      rw [List.cons_append, List.cons_append]
      by_cases hReturn : c = '\r' ∧ text = []
      · -- The line feed belongs to the carriage return.
        rcases hReturn with ⟨rfl, rfl⟩
        simp [linesFrom]
      · have hStill : ∀ (more others : List Char),
            c = '\r' → text ++ '\n' :: more = '\n' :: others →
              False := by
          intro more others hSame hMore
          cases text with
          | nil => exact hReturn ⟨hSame, rfl⟩
          | cons first others' =>
              cases hMore
              exact hApart others' hSame rfl
        rw [linesFrom, linesFrom, if_pos hEnd, if_pos hEnd, ih,
          List.cons_append]
        · exact hStill []
        · exact hStill rest
  | case5 current c text hApart hEnd ih =>
      have hNoReturn : c ≠ '\r' := by
        rintro rfl
        exact hEnd (by decide)
      rw [List.cons_append, List.cons_append, linesFrom,
        linesFrom, if_neg hEnd, if_neg hEnd, ih]
      · exact fun _ hSame _ => hNoReturn hSame
      · exact fun _ hSame _ => hNoReturn hSame

/- Lines behind a line feed are lines by themselves. -/
theorem lines_append_feed
    (text rest : List Char) :
    lines (text ++ '\n' :: rest) =
      lines (text ++ ['\n']) ++ lines rest :=
  linesFrom_append_feed [] text rest

end Text

end Spreadsheet
