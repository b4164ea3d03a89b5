import Mathlib.Data.List.Basic
import Spreadsheet.Journal

/-
  The end of a log.

  A log is a sequence of parts, each with a line feed behind
  it.  Wherever the end that is read begins, all of the part
  in which it begins is left out, so that the parts behind it
  remain whole, and the more is read, the more of them remain.

  Key definitions include:
    * `Spreadsheet.Log.framed`
    * `Spreadsheet.Log.touched`
    * `Spreadsheet.Log.skipped`

  Main results:
    * `Spreadsheet.Log.afterFirstLine_drop`
    * `Spreadsheet.Log.tail_framed`
    * `Spreadsheet.Log.skipped_antitone`
    * `Spreadsheet.Log.skipped_le_iff`
-/

------------------------------------------------------------
-- Parts And Line Feeds
------------------------------------------------------------

namespace Spreadsheet

namespace Log

/- Parts, each with its line feed. -/
def framed
    (parts : List (List UInt8)) :
    List UInt8 :=
  parts.flatMap fun part => part ++ [lineFeed]

@[simp] theorem framed_cons
    (part : List UInt8)
    (rest : List (List UInt8)) :
    framed (part :: rest) = part ++ lineFeed :: framed rest := by
  rw [framed, List.flatMap_cons, List.append_assoc]
  rfl

/-
  The number of parts that a cut behind some bytes leaves out
  or cuts through.
-/
def touched :
    (count : Nat) → (parts : List (List UInt8)) → Nat
  | _, [] => 0
  | count, part :: rest =>
      if count ≤ part.length then
        1
      else
        touched (count - (part.length + 1)) rest + 1

/- The later the cut, the more parts it touches. -/
theorem touched_mono
    {count more : Nat}
    (hMore : count ≤ more)
    (parts : List (List UInt8)) :
    touched count parts ≤ touched more parts := by
  induction parts generalizing count more with
  | nil => exact Nat.le_refl 0
  | cons part rest ih =>
      have hRest :
          touched (count - (part.length + 1)) rest ≤
            touched (more - (part.length + 1)) rest :=
        ih (by omega)
      simp only [touched]
      split
      · split
        · exact Nat.le_refl 1
        · omega
      · split
        · omega
        · omega

/-
  A cut touches no more than so many parts if it comes in
  front of the end of the last of them.
-/
theorem touched_le_iff
    (count : Nat)
    (parts : List (List UInt8))
    (most : Nat) :
    touched count parts ≤ most ↔
      parts.length ≤ most ∨
        count < (framed (parts.take most)).length := by
  induction parts generalizing count most with
  | nil => simp [touched]
  | cons part rest ih =>
      cases most with
      | zero =>
          have hSome : 0 < touched count (part :: rest) := by
            simp only [touched]
            split
            · exact Nat.one_pos
            · exact Nat.succ_pos _
          simp only [List.take_zero, List.length_cons, framed,
            List.flatMap_nil, List.length_nil]
          omega
      | succ most =>
          rw [List.take_succ_cons, framed_cons,
            List.length_append, List.length_cons,
            List.length_cons]
          simp only [touched]
          split
          · omega
          · rw [Nat.add_le_add_iff_right, ih]
            omega

theorem framed_append
    (parts others : List (List UInt8)) :
    framed (parts ++ others) = framed parts ++ framed others :=
  List.flatMap_append

/- Bytes with a line feed at their end are parts of a log. -/
theorem exists_framed
    {bytes : List UInt8}
    (hEnd : ∀ byte ∈ bytes.getLast?, byte = lineFeed) :
    ∃ parts : List (List UInt8),
      (∀ part ∈ parts, lineFeed ∉ part) ∧
        bytes = framed parts := by
  induction bytes with
  | nil => exact ⟨[], List.forall_mem_nil _, rfl⟩
  | cons byte rest ih =>
      have hRest : ∀ byte ∈ rest.getLast?, byte = lineFeed := by
        intro last hLast
        apply hEnd
        rw [List.getLast?_cons, Option.mem_some_iff,
          Option.mem_def.mp hLast]
        rfl
      rcases ih hRest with ⟨parts, hParts, rfl⟩
      by_cases hByte : byte = lineFeed
      · refine ⟨[] :: parts, ?_, ?_⟩
        · exact List.forall_mem_cons.mpr
            ⟨List.not_mem_nil, hParts⟩
        · rw [hByte, framed_cons, List.nil_append]
      · -- The byte belongs to the first part, which is there.
        cases parts with
        | nil => exact (hByte (hEnd byte rfl)).elim
        | cons part parts =>
            rw [List.forall_mem_cons] at hParts
            refine ⟨(byte :: part) :: parts, ?_, ?_⟩
            · refine List.forall_mem_cons.mpr ⟨?_, hParts.2⟩
              exact List.not_mem_cons_of_ne_of_not_mem
                (Ne.symm hByte) hParts.1
            · rw [framed_cons, framed_cons, List.cons_append]

/- Behind a part without line feeds its own one comes first. -/
theorem afterFirstLine_part
    {part : List UInt8}
    (hPart : lineFeed ∉ part)
    (rest : List UInt8) :
    afterFirstLine (part ++ lineFeed :: rest) = rest := by
  have hDrop :
      (part ++ lineFeed :: rest).dropWhile (· != lineFeed) =
        lineFeed :: rest := by
    rw [List.dropWhile_append_of_pos]
    · rfl
    · intro byte hByte
      rw [bne_iff_ne]
      rintro rfl
      exact hPart hByte
  rw [afterFirstLine, hDrop]

/- A cut leaves whole the parts that it does not touch. -/
theorem afterFirstLine_drop
    {parts : List (List UInt8)}
    (hParts : ∀ part ∈ parts, lineFeed ∉ part)
    (count : Nat) :
    afterFirstLine ((framed parts).drop count) =
      framed (parts.drop (touched count parts)) := by
  induction parts generalizing count with
  | nil =>
      rw [framed, List.flatMap_nil, List.drop_nil]
      rfl
  | cons part rest ih =>
      rw [List.forall_mem_cons] at hParts
      rw [framed_cons]
      simp only [touched]
      split
      · -- The cut is in this part or in front of its line feed.
        rename_i hInside
        rw [List.drop_append_of_le_length hInside,
          afterFirstLine_part fun hFeed =>
            hParts.1 (List.mem_of_mem_drop hFeed)]
        rfl
      · rename_i hBehind
        have hFrame :
            part ++ lineFeed :: framed rest =
              (part ++ [lineFeed]) ++ framed rest :=
          List.append_cons part lineFeed (framed rest)
        have hLength :
            (part ++ [lineFeed]).length = part.length + 1 := by
          rw [List.length_append, List.length_singleton]
        rw [hFrame, List.drop_append, hLength,
          List.drop_eq_nil_of_le (by omega), List.nil_append,
          ih hParts.2]
        rfl

end Log

end Spreadsheet

------------------------------------------------------------
-- What Is Left Out
------------------------------------------------------------

namespace Spreadsheet

namespace Log

/- The number of parts that the end of a size leaves out. -/
def skipped
    (size : Nat)
    (parts : List (List UInt8)) :
    Nat :=
  if (framed parts).length ≤ size then
    0
  else
    touched ((framed parts).length - size) parts

/- Nothing is left out of an end as long as the log. -/
theorem skipped_eq_zero
    {size : Nat}
    {parts : List (List UInt8)}
    (hSize : (framed parts).length ≤ size) :
    skipped size parts = 0 :=
  if_pos hSize

/- A longer end leaves out no more parts. -/
theorem skipped_antitone
    {size larger : Nat}
    (hLarger : size ≤ larger)
    (parts : List (List UInt8)) :
    skipped larger parts ≤ skipped size parts := by
  unfold skipped
  split
  · exact Nat.zero_le _
  · split
    · omega
    · exact touched_mono (by omega) parts

/-
  Of a log that is longer than its end, a part is not left out
  if more is read than the part and what is behind it.
-/
theorem skipped_le_iff
    (size : Nat)
    (parts : List (List UInt8))
    (most : Nat) :
    skipped size parts ≤ most ↔
      parts.length ≤ most ∨ (framed parts).length ≤ size ∨
        (framed (parts.drop most)).length < size := by
  have hLength :
      (framed parts).length =
        (framed (parts.take most)).length +
          (framed (parts.drop most)).length := by
    rw [← List.length_append, ← framed_append,
      List.take_append_drop]
  unfold skipped
  split
  · omega
  · rw [touched_le_iff]
    omega

/- The end of a log has the parts that are not left out. -/
theorem tail_framed
    {log : Log}
    {parts : List (List UInt8)}
    (hBytes : log.bytes = framed parts)
    (hParts : ∀ part ∈ parts, lineFeed ∉ part)
    (size : Nat) :
    log.tail size = framed (parts.drop (skipped size parts)) := by
  unfold tail skipped
  simp only [hBytes]
  split
  · rfl
  · exact afterFirstLine_drop hParts _

end Log

end Spreadsheet
