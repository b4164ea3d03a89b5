import Mathlib.Data.List.Basic
import Spreadsheet.Proofs.Text.Fold
import Spreadsheet.Proofs.Text.Stretch
import Spreadsheet.Text.Blank
import Spreadsheet.Text.Utf8

/-
  Lines of visible characters.

  The visible characters of ASCII and the line feed are bytes
  of their own, and none of the visible ones ends a line.  So
  lines of them are read back from their bytes as they were
  written.

  Key definitions include:
    * `Spreadsheet.Text.Visible`
    * `Spreadsheet.Text.fed`

  Main results:
    * `Spreadsheet.Text.decode_encode_of_ascii`
    * `Spreadsheet.Text.lines_fed`
    * `Spreadsheet.Text.trim_of_ends`
    * `Spreadsheet.Text.trim_between`
    * `Spreadsheet.Text.exists_trim`
-/

------------------------------------------------------------
-- Bytes Of ASCII
------------------------------------------------------------

namespace Spreadsheet

namespace Text

/- A character of ASCII is its code as a byte. -/
theorem encodeChar_of_ascii
    {c : Char}
    (hAscii : c.toNat < 128) :
    encodeChar c = [c.toNat.toUInt8] := by
  unfold encodeChar
  simp only
  rw [if_pos hAscii]

/- The byte of a character of ASCII is read as this one. -/
theorem read_of_ascii
    {c : Char}
    (hAscii : c.toNat < 128)
    (done : List Char) :
    Decoding.read ⟨done, none⟩ c.toNat.toUInt8 =
      ⟨c :: done, none⟩ := by
  have hByte : c.toNat.toUInt8.toNat = c.toNat := by
    rw [Nat.toUInt8_eq, UInt8.toNat_ofNat',
      Nat.mod_eq_of_lt (by omega)]
  unfold Decoding.read
  rw [hByte]
  simp only [decodeByte, decodeFresh]
  rw [if_pos hAscii, Char.ofNat_toNat]
  rfl

/- A text of ASCII is read back from its bytes. -/
theorem decode_encode_of_ascii
    {text : List Char}
    (hAscii : ∀ c ∈ text, c.toNat < 128) :
    decode (encode text) = text := by
  have hFold :
      ∀ done,
        (encode text).foldl Decoding.read ⟨done, none⟩ =
          ⟨text.reverse ++ done, none⟩ := by
    induction text with
    | nil => exact fun _ => rfl
    | cons c rest ih =>
        rw [List.forall_mem_cons] at hAscii
        intro done
        rw [encode, List.flatMap_cons,
          encodeChar_of_ascii hAscii.1, List.foldl_append,
          List.foldl_cons, List.foldl_nil,
          read_of_ascii hAscii.1, List.reverse_cons,
          List.append_assoc]
        exact ih hAscii.2 (c :: done)
  rw [decode, Decoding.start, hFold [], List.append_nil]
  exact List.reverse_reverse text

/- Bytes of ASCII are as many as the characters. -/
theorem encode_of_ascii
    {text : List Char}
    (hAscii : ∀ c ∈ text, c.toNat < 128) :
    encode text = text.map fun c => c.toNat.toUInt8 := by
  induction text with
  | nil => rfl
  | cons c rest ih =>
      rw [List.forall_mem_cons] at hAscii
      rw [encode, List.flatMap_cons,
        encodeChar_of_ascii hAscii.1, List.map_cons,
        ← ih hAscii.2]
      rfl

end Text

end Spreadsheet

------------------------------------------------------------
-- Visible Characters
------------------------------------------------------------

namespace Spreadsheet

namespace Text

/- A character of ASCII that shows, or the space. -/
def Visible
    (c : Char) : Prop :=
  0x20 ≤ c.toNat ∧ c.toNat < 0x7f

instance (c : Char) : Decidable (Visible c) :=
  inferInstanceAs (Decidable (_ ∧ _))

theorem Visible.ascii
    {c : Char}
    (hVisible : Visible c) :
    c.toNat < 128 :=
  Nat.lt_trans hVisible.2 (by decide)

/- No visible character ends a line. -/
theorem Visible.not_lineEnd
    {c : Char}
    (hVisible : Visible c) :
    isLineEnd c = false := by
  have hAll :
      ∀ code < 128, Visible (Char.ofNat code) →
        isLineEnd (Char.ofNat code) = false := by
    decide +kernel
  exact forall_ascii
    (motive := fun c => Visible c → isLineEnd c = false)
    hAll hVisible.ascii hVisible

/- Lines, each with its line feed. -/
def fed
    (lines : List (List Char)) :
    List Char :=
  lines.flatMap fun line => line ++ ['\n']

/- A line of visible characters ends at its line feed. -/
theorem linesFrom_visible
    {line : List Char}
    (hVisible : ∀ c ∈ line, Visible c)
    (current rest : List Char) :
    linesFrom current (line ++ '\n' :: rest) =
      (current.reverse ++ line) :: linesFrom [] rest := by
  induction line generalizing current with
  | nil =>
      rw [List.nil_append, List.append_nil, linesFrom]
      · rfl
      · intro _ hReturn
        cases hReturn
  | cons c line ih =>
      rw [List.forall_mem_cons] at hVisible
      have hNoReturn : c ≠ '\r' := by
        rintro rfl
        exact absurd hVisible.1 (by decide)
      rw [List.cons_append, linesFrom]
      · rw [hVisible.1.not_lineEnd, if_neg (by decide),
          ih hVisible.2, List.reverse_cons,
          List.append_assoc, List.singleton_append]
      · exact fun _ hReturn => (hNoReturn hReturn).elim

/- Lines of visible characters are read as they are. -/
theorem lines_fed
    {lines : List (List Char)}
    (hVisible : ∀ line ∈ lines, ∀ c ∈ line, Visible c) :
    Text.lines (fed lines) = lines := by
  unfold Text.lines
  induction lines with
  | nil => rfl
  | cons line rest ih =>
      rw [List.forall_mem_cons] at hVisible
      rw [fed, List.flatMap_cons, List.append_assoc,
        List.singleton_append, linesFrom_visible hVisible.1]
      exact congrArg (line :: ·) (ih hVisible.2)

/- With their line feeds they are characters of ASCII. -/
theorem ascii_of_mem_fed
    {lines : List (List Char)}
    (hVisible : ∀ line ∈ lines, ∀ c ∈ line, Visible c)
    {c : Char}
    (hMember : c ∈ fed lines) :
    c.toNat < 128 := by
  rw [fed, List.mem_flatMap] at hMember
  rcases hMember with ⟨line, hLine, hMember⟩
  rcases List.mem_append.mp hMember with hMember | hFeed
  · exact (hVisible line hLine c hMember).ascii
  · rw [List.mem_singleton.mp hFeed]
    decide

/- So their bytes are read as the same lines. -/
theorem lines_decode_fed
    {lines : List (List Char)}
    (hVisible : ∀ line ∈ lines, ∀ c ∈ line, Visible c) :
    Text.lines (decode (encode (fed lines))) = lines := by
  rw [decode_encode_of_ascii fun _ =>
    ascii_of_mem_fed hVisible, lines_fed hVisible]

end Text

end Spreadsheet

------------------------------------------------------------
-- Ends Of Texts
------------------------------------------------------------

namespace Spreadsheet

namespace Text

/- A text between two characters that show is kept. -/
theorem trim_of_ends
    {first last : Char}
    (hFirst : isBlank first = false)
    (hLast : isBlank last = false)
    (middle : List Char) :
    trim (first :: middle ++ [last]) =
      first :: middle ++ [last] := by
  have hFront :
      (first :: middle ++ [last]).dropWhile isBlank =
        first :: middle ++ [last] := by
    rw [List.cons_append, List.dropWhile_cons_of_neg
      (by rw [hFirst]; decide)]
  rw [trim, hFront, trimRight, List.reverse_append,
    List.reverse_singleton, List.singleton_append,
    List.dropWhile_cons_of_neg (by rw [hLast]; decide),
    List.reverse_cons, List.reverse_reverse]

/- White space around a text without any is dropped. -/
theorem trim_between
    {before core after : List Char}
    (hBefore : ∀ c ∈ before, isBlank c = true)
    (hCore : ∀ c ∈ core, isBlank c = false)
    (hAfter : ∀ c ∈ after, isBlank c = true) :
    trim (before ++ (core ++ after)) = core := by
  have hRight : trimRight (core ++ after) = core := by
    rw [trimRight, List.reverse_append, dropWhile_append_stop,
      List.reverse_reverse]
    · exact fun c hMember =>
        hAfter c (List.mem_reverse.mp hMember)
    · exact fun c hHead =>
        hCore c (List.mem_reverse.mp (List.mem_of_head? hHead))
  cases core with
  | nil =>
      have hAll : ∀ c ∈ before ++ after, isBlank c = true := by
        rw [List.forall_mem_append]
        exact ⟨hBefore, hAfter⟩
      rw [List.nil_append, trim, List.dropWhile_eq_nil_iff.mpr
        hAll]
      rfl
  | cons c core =>
      rw [trim, dropWhile_append_stop hBefore, hRight]
      rintro _ ⟨rfl⟩
      exact hCore c List.mem_cons_self

/- Of a text only white space at its ends is dropped. -/
theorem exists_trim
    (text : List Char) :
    ∃ before after,
      (∀ c ∈ before, isBlank c = true) ∧
        (∀ c ∈ after, isBlank c = true) ∧
        text = before ++ (trim text ++ after) := by
  refine ⟨text.takeWhile isBlank,
    ((text.dropWhile isBlank).reverse.takeWhile
      isBlank).reverse, ?_, ?_, ?_⟩
  · exact fun c hMember => List.mem_takeWhile_imp hMember
  · intro c hMember
    exact List.mem_takeWhile_imp (List.mem_reverse.mp hMember)
  · rw [trim, trimRight, ← List.reverse_append,
      List.takeWhile_append_dropWhile, List.reverse_reverse,
      List.takeWhile_append_dropWhile]

end Text

end Spreadsheet
