import Spreadsheet.Proofs.Json.Floats
import Spreadsheet.Proofs.Json.Restored
import Spreadsheet.Proofs.Json.Strings

/-
  Lines read back.

  A document is read up to the comma or bracket that follows
  it, and the fuel is never less than the characters that are
  left of its line.  So the line of a document that can be
  written is read as what it restores.

  Main results:
    * `Spreadsheet.Document.line_map`
    * `Spreadsheet.Json.readsBack`
    * `Spreadsheet.Document.ofJson_line`
    * `Spreadsheet.Document.ofJson_of_tooMany`
    * `Spreadsheet.Document.visible_of_mem_line`
-/

------------------------------------------------------------
-- Parts Of Lines
------------------------------------------------------------

namespace Spreadsheet

namespace Document

/- The name of an entry with its line. -/
def lineUnder
    (entry : String × Document) :
    String × List Char :=
  (entry.1, entry.2.line)

/- To put lines among lines is to put entries among entries. -/
theorem insertEntry_map
    (entry : String × Document)
    (entries : Entries) :
    Json.insertEntry (lineUnder entry)
        (entries.map lineUnder) =
      (entries.orderedInsert
        (fun entry other => entry.1 ≤ other.1)
        entry).map lineUnder := by
  induction entries with
  | nil => rfl
  | cons first rest ih =>
      rw [List.map_cons, Json.insertEntry,
        List.orderedInsert_cons, ih]
      by_cases hOrder : entry.1 ≤ first.1
      · have hLines :
            (lineUnder entry).1 ≤ (lineUnder first).1 :=
          hOrder
        rw [if_pos hOrder, if_pos hLines]
        rfl
      · have hLines :
            ¬(lineUnder entry).1 ≤ (lineUnder first).1 :=
          hOrder
        rw [if_neg hOrder, if_neg hLines]
        rfl

/- The lines of entries are sorted as the entries are. -/
theorem sortEntries_map
    (entries : Entries) :
    Json.sortEntries (entries.map lineUnder) =
      (Entries.sorted entries).map lineUnder := by
  induction entries with
  | nil => rfl
  | cons entry rest ih =>
      rw [Json.sortEntries, List.map_cons, List.foldr_cons,
        ← Json.sortEntries, ih, insertEntry_map]
      rfl

/- An entry of a map as it stands on a line. -/
def lineEntry
    (entry : String × Document) :
    List Char :=
  Json.named (lineUnder entry)

theorem line_list
    (items : List Document) :
    (list items).line =
      '[' :: Text.commaSeparated (items.map line) ++ [']'] := by
  have hItems : lineItems items = items.map line := by
    induction items with
    | nil => rfl
    | cons item rest ih => rw [lineItems, ih, List.map_cons]
  rw [line, hItems]

theorem line_map
    (entries : Entries) :
    (map entries).line =
      '\x7b' ::
        Text.commaSeparated
          ((Entries.sorted entries).map lineEntry) ++
            ['\x7d'] := by
  have hEntries :
      lineEntries entries = entries.map lineUnder := by
    induction entries with
    | nil => rfl
    | cons entry rest ih =>
        rw [lineEntries, ih, List.map_cons]
        rfl
  rw [line, hEntries, sortEntries_map, List.map_map]
  rfl

end Document

end Spreadsheet

------------------------------------------------------------
-- Beginnings Of Lines
------------------------------------------------------------

namespace Spreadsheet

namespace Document

/- A line begins with what is neither blank nor closes it. -/
theorem head_line
    (document : Document) :
    ∃ c rest, document.line = c :: rest ∧
      Json.isBlank c = false ∧ c ≠ ']' := by
  cases document with
  | null => exact ⟨_, _, rfl, by decide, by decide⟩
  | truth b =>
      cases b with
      | false => exact ⟨_, _, rfl, by decide, by decide⟩
      | true => exact ⟨_, _, rfl, by decide, by decide⟩
  | whole n =>
      rcases Json.head_integer n with
        ⟨c, rest, hLine, hBegins⟩
      exact ⟨c, rest, hLine, hBegins.not_blank,
        hBegins.ne ']' (by decide) (by decide)⟩
  | float x =>
      rcases Json.head_float x with ⟨c, rest, hLine, hBegins⟩
      exact ⟨c, rest, hLine, hBegins.not_blank,
        hBegins.ne ']' (by decide) (by decide)⟩
  | text s => exact ⟨_, _, rfl, by decide, by decide⟩
  | list items => exact ⟨_, _, rfl, by decide, by decide⟩
  | map entries => exact ⟨_, _, rfl, by decide, by decide⟩
  | other shown => exact ⟨_, _, rfl, by decide, by decide⟩

/- There are no blanks to skip in front of a line. -/
theorem skipBlanks_line
    (document : Document)
    (rest : List Char) :
    Json.skipBlanks (document.line ++ rest) =
      document.line ++ rest := by
  rcases document.head_line with ⟨c, others, hLine, hBlank, -⟩
  rw [hLine, List.cons_append, Json.skipBlanks,
    List.dropWhile_cons_of_neg (by rw [hBlank]; decide)]

end Document

namespace Text

/- Parts between commas begin with the first one. -/
theorem commaSeparated_cons
    (part : List Char)
    (rest : List (List Char)) :
    ∃ behind, commaSeparated (part :: rest) = part ++ behind := by
  cases rest with
  | nil => exact ⟨[], (List.append_nil part).symm⟩
  | cons next rest => exact ⟨_, rfl⟩

end Text

end Spreadsheet

------------------------------------------------------------
-- Lists
------------------------------------------------------------

namespace Spreadsheet

namespace Json

/- A document is read from its line, up to what follows it. -/
def ReadsBack
    (document : Document) : Prop :=
  ∀ fuel rest, document.line.length ≤ fuel → Ends rest →
    value fuel (document.line ++ rest) =
      .ok (document.restored, rest)

/- Behind an item and a comma the next one is read. -/
theorem items_comma
    {fuel : Nat}
    {text rest : List Char}
    {item : Document Key}
    (hItem : value fuel text = .ok (item, ',' :: ' ' :: rest))
    (done : List (Document Key)) :
    items (fuel + 1) done text =
      items fuel (item :: done) (skipBlanks rest) := by
  rw [items, hItem]
  rfl

/- Behind the last item the list is closed. -/
theorem items_closed
    {fuel : Nat}
    {text rest : List Char}
    {item : Document Key}
    (hItem : value fuel text = .ok (item, ']' :: rest))
    (done : List (Document Key)) :
    items (fuel + 1) done text =
      .ok (.list (item :: done).reverse, rest) := by
  rw [items, hItem]
  rfl

/- The items of a list as they stand on a line. -/
def itemsLine
    (items : List Document) :
    List Char :=
  Text.commaSeparated (items.map Document.line)

theorem skipBlanks_itemsLine
    (item : Document)
    (items : List Document)
    (rest : List Char) :
    skipBlanks (itemsLine (item :: items) ++ rest) =
      itemsLine (item :: items) ++ rest := by
  rcases Text.commaSeparated_cons item.line
      (items.map Document.line) with
    ⟨behind, hLine⟩
  rw [itemsLine, List.map_cons, hLine, List.append_assoc,
    item.skipBlanks_line]

/- Items that are read back are read one by one. -/
theorem items_itemsLine
    {item : Document}
    {others : List Document}
    (hItems : ∀ part ∈ item :: others, ReadsBack part)
    {fuel : Nat}
    (hFuel : (itemsLine (item :: others)).length < fuel)
    (done : List (Document Key))
    (rest : List Char) :
    items fuel done (itemsLine (item :: others) ++ ']' :: rest) =
      .ok (.list (done.reverse ++
        (item :: others).map Document.restored), rest) := by
  induction others generalizing item done fuel with
  | nil =>
      rcases fuel with _ | fuel
      · exact (Nat.not_lt_zero _ hFuel).elim
      · have hItem :=
          hItems item List.mem_cons_self fuel (']' :: rest)
            (Nat.le_of_lt_succ hFuel) (.bracket rest)
        rw [itemsLine, List.map_singleton,
          Text.commaSeparated, items_closed hItem,
          List.reverse_cons, List.map_singleton]
  | cons next others ih =>
      rcases fuel with _ | fuel
      · exact (Nat.not_lt_zero _ hFuel).elim
      · have hLine :
            itemsLine (item :: next :: others) =
              item.line ++
                ',' :: ' ' :: itemsLine (next :: others) :=
          rfl
        rw [hLine, List.length_append, List.length_cons,
          List.length_cons] at hFuel
        rw [List.forall_mem_cons] at hItems
        have hItem :=
          hItems.1 fuel
            (',' :: ' ' :: (itemsLine (next :: others) ++
              ']' :: rest))
            (by omega) (.comma _)
        rw [hLine, List.append_assoc, List.cons_append,
          List.cons_append, items_comma hItem,
          skipBlanks_itemsLine,
          ih hItems.2 (by omega), List.reverse_cons,
          List.append_assoc]
        rfl

/- A list is read back if all its items are. -/
theorem readsBack_list
    {items : List Document}
    (hItems : ∀ item ∈ items, ReadsBack item) :
    ReadsBack (.list items) := by
  intro fuel rest hFuel _
  rw [Document.line_list] at hFuel ⊢
  rw [List.length_append, List.length_cons,
    List.length_singleton] at hFuel
  rcases fuel with _ | fuel
  · omega
  rw [Document.restored, Document.restoredItems_eq,
    List.append_assoc, List.singleton_append,
    List.cons_append]
  cases items with
  | nil => rfl
  | cons item others =>
      have hOpen :
          value (fuel + 1)
              ('[' :: (itemsLine (item :: others) ++
                ']' :: rest)) =
            Json.items fuel []
              (itemsLine (item :: others) ++ ']' :: rest) := by
        rcases Text.commaSeparated_cons item.line
            (others.map Document.line) with
          ⟨behind, hLine⟩
        rcases item.head_line with ⟨c, tail, hHead, -, hOther⟩
        have hSkip :=
          skipBlanks_itemsLine item others (']' :: rest)
        rw [value, hSkip]
        split
        · rename_i hClosed
          rw [itemsLine, List.map_cons, hLine, hHead] at hClosed
          exact (hOther (List.cons.inj hClosed).1).elim
        · rfl
      exact hOpen.trans
        (items_itemsLine hItems (Nat.lt_of_succ_lt_succ hFuel)
          [] rest)

end Json

end Spreadsheet

------------------------------------------------------------
-- Maps
------------------------------------------------------------

namespace Spreadsheet

namespace Json

open Document (lineEntry restoredEntry)

/- The entries of a map as they stand on a line. -/
def entriesLine
    (entries : Entries) :
    List Char :=
  Text.commaSeparated (entries.map lineEntry)

/- An entry with what follows, behind the opening quote. -/
theorem lineEntry_append
    (entry : String × Document)
    (rest : List Char) :
    lineEntry entry ++ rest =
      '"' :: (entry.1.toList.flatMap escaped ++
        '"' :: ':' :: ' ' :: (entry.2.line ++ rest)) := by
  simp only [lineEntry, Document.lineUnder, named, quoted,
    List.cons_append, List.append_assoc, List.nil_append]

/- An entry is longer than the line of its document. -/
theorem length_lineEntry
    (entry : String × Document) :
    entry.2.line.length < (lineEntry entry).length := by
  simp only [lineEntry, Document.lineUnder, named,
    List.length_append, List.length_cons]
  omega

/- Behind a name and a colon the document is read. -/
theorem entries_succ
    {entry : String × Document}
    (hEntry : ReadsBack entry.2)
    {fuel : Nat}
    (hFuel : entry.2.line.length ≤ fuel)
    (done : Entries Key)
    {rest : List Char}
    (hEnds : Ends rest) :
    entries (fuel + 1) done (lineEntry entry ++ rest) =
      match skipBlanks rest with
      | ',' :: rest =>
          entries fuel (restoredEntry entry :: done)
            (skipBlanks rest)
      | '\x7d' :: rest =>
          .ok (.map (Entries.ofList
            (restoredEntry entry :: done).reverse), rest)
      | _ => .error .malformed := by
  have hName :=
    string_quoted entry.1
      (':' :: ' ' :: (entry.2.line ++ rest))
  have hColon :
      skipBlanks (':' :: ' ' :: (entry.2.line ++ rest)) =
        ':' :: ' ' :: (entry.2.line ++ rest) := rfl
  have hBehind :
      skipBlanks (' ' :: (entry.2.line ++ rest)) =
        entry.2.line ++ rest :=
    entry.2.skipBlanks_line rest
  rw [lineEntry_append]
  simp only [entries, hName, bind, Except.bind, hColon,
    hBehind, hEntry fuel rest hFuel hEnds]
  rfl

/- Entries that are read back are read one by one. -/
theorem entries_entriesLine
    {entry : String × Document}
    {others : Entries}
    (hEntries : ∀ part ∈ entry :: others, ReadsBack part.2)
    {fuel : Nat}
    (hFuel : (entriesLine (entry :: others)).length < fuel)
    (done : Entries Key)
    (rest : List Char) :
    entries fuel done
        (entriesLine (entry :: others) ++ '\x7d' :: rest) =
      .ok (.map (Entries.ofList (done.reverse ++
        (entry :: others).map restoredEntry)), rest) := by
  induction others generalizing entry done fuel with
  | nil =>
      have hLength := length_lineEntry entry
      rcases fuel with _ | fuel
      · exact (Nat.not_lt_zero _ hFuel).elim
      · have hLine : entriesLine [entry] = lineEntry entry :=
          rfl
        rw [hLine] at hFuel ⊢
        rw [entries_succ (hEntries entry List.mem_cons_self)
          (by omega) done (.brace rest), List.reverse_cons]
        rfl
  | cons next others ih =>
      have hLength := length_lineEntry entry
      rcases fuel with _ | fuel
      · exact (Nat.not_lt_zero _ hFuel).elim
      · have hLine :
            entriesLine (entry :: next :: others) =
              lineEntry entry ++
                ',' :: ' ' :: entriesLine (next :: others) :=
          rfl
        have hNext :
            skipBlanks (' ' ::
                (entriesLine (next :: others) ++
                  '\x7d' :: rest)) =
              entriesLine (next :: others) ++
                '\x7d' :: rest := by
          rcases Text.commaSeparated_cons (lineEntry next)
              (others.map lineEntry) with
            ⟨behind, hHead⟩
          rw [entriesLine, List.map_cons, hHead,
            List.append_assoc, lineEntry_append]
          rfl
        rw [hLine, List.length_append, List.length_cons,
          List.length_cons] at hFuel
        rw [List.forall_mem_cons] at hEntries
        rw [hLine, List.append_assoc, List.cons_append,
          List.cons_append,
          entries_succ hEntries.1 (by omega) done (.comma _)]
        change entries fuel _ (skipBlanks (' ' ::
          (entriesLine (next :: others) ++
            '\x7d' :: rest))) = _
        rw [hNext, ih hEntries.2 (by omega),
          List.reverse_cons, List.append_assoc]
        rfl

/- A map is read back if all its entries are. -/
theorem readsBack_map
    {entries : Entries}
    (hNodup : entries.names.Nodup)
    (hEntries : ∀ entry ∈ entries, ReadsBack entry.2) :
    ReadsBack (.map entries) := by
  have hRestored :
      Document.restored (.map entries) =
        .map (Entries.ofList
          ((Entries.sorted entries).map restoredEntry)) := by
    rw [Document.restored_map, Entries.ofList_of_nodup
      (Document.nodup_names_restored hNodup)]
  have hSorted :
      ∀ entry ∈ Entries.sorted entries, ReadsBack entry.2 :=
    fun entry hEntry => hEntries entry
      ((Entries.sorted_perm entries).mem_iff.mp hEntry)
  intro fuel rest hFuel _
  rw [Document.line_map] at hFuel ⊢
  rw [List.length_append, List.length_cons,
    List.length_singleton] at hFuel
  rcases fuel with _ | fuel
  · omega
  rw [hRestored, List.append_assoc, List.singleton_append,
    List.cons_append]
  cases hParts : Entries.sorted entries with
  | nil => rfl
  | cons entry others =>
      rw [hParts] at hFuel hSorted
      have hOpen :
          value (fuel + 1)
              ('\x7b' :: (entriesLine (entry :: others) ++
                '\x7d' :: rest)) =
            Json.entries fuel []
              (entriesLine (entry :: others) ++
                '\x7d' :: rest) := by
        rcases Text.commaSeparated_cons (lineEntry entry)
            (others.map lineEntry) with
          ⟨behind, hHead⟩
        rw [entriesLine, List.map_cons, hHead,
          List.append_assoc, lineEntry_append]
        rfl
      exact hOpen.trans
        (entries_entriesLine hSorted
          (Nat.lt_of_succ_lt_succ hFuel) [] rest)

end Json

end Spreadsheet

------------------------------------------------------------
-- Documents
------------------------------------------------------------

namespace Spreadsheet

namespace Json

/- What is neither a string, a list nor a map is a scalar. -/
theorem value_scalar
    {c : Char}
    (hOther : c ∉ ['"', '[', '\x7b'])
    (fuel : Nat)
    (rest : List Char) :
    value (fuel + 1) (c :: rest) = scalar (c :: rest) := by
  simp only [List.mem_cons, List.not_mem_nil, or_false,
    not_or] at hOther
  rw [value]
  · exact fun _ hSame => (hOther.1 (List.cons.inj hSame).1).elim
  · exact fun _ hSame => (hOther.2.1 (List.cons.inj hSame).1).elim
  · exact fun _ hSame => (hOther.2.2 (List.cons.inj hSame).1).elim

/- What is read as a scalar is read back. -/
theorem readsBack_scalar
    {document : Document}
    (hHead : ∃ c rest, document.line = c :: rest ∧
      c ∉ ['"', '[', '\x7b'])
    (hScalar : ∀ rest, Ends rest →
      scalar (document.line ++ rest) =
        .ok (document.restored, rest)) :
    ReadsBack document := by
  intro fuel rest hFuel hEnds
  rcases hHead with ⟨c, others, hLine, hOther⟩
  rcases fuel with _ | fuel
  · rw [hLine] at hFuel
    exact (Nat.not_succ_le_zero _ hFuel).elim
  · rw [← hScalar rest hEnds, hLine]
    exact value_scalar hOther fuel _

/- A document that is written as a string is read as text. -/
theorem readsBack_quoted
    {document : Document}
    {s : String}
    (hLine : document.line = quoted s.toList)
    (hRestored : document.restored = .text s) :
    ReadsBack document := by
  intro fuel rest hFuel _
  rw [hLine] at hFuel ⊢
  rcases fuel with _ | fuel
  · exact (Nat.not_succ_le_zero _ hFuel).elim
  · have hString := string_quoted s rest
    rw [hRestored, quoted, List.cons_append, List.cons_append,
      List.append_assoc, List.singleton_append, value, hString]
    rfl

theorem isWritable_list
    {items : List Document} :
    (Document.list items).isWritable = true ↔
      ∀ item ∈ items, item.isWritable = true := by
  have hItems :
      Document.areWritable items = true ↔
        ∀ item ∈ items, item.isWritable = true := by
    induction items with
    | nil => simp [Document.areWritable]
    | cons item rest ih =>
        rw [Document.areWritable, Bool.and_eq_true, ih,
          List.forall_mem_cons]
  rw [Document.isWritable, hItems]

theorem isWritable_map
    {entries : Entries} :
    (Document.map entries).isWritable = true ↔
      ∀ entry ∈ entries, entry.2.isWritable = true := by
  have hEntries :
      Document.haveWritable entries = true ↔
        ∀ entry ∈ entries, entry.2.isWritable = true := by
    induction entries with
    | nil => simp [Document.haveWritable]
    | cons entry rest ih =>
        rw [Document.haveWritable, Bool.and_eq_true, ih,
          List.forall_mem_cons]
  rw [Document.isWritable, hEntries]

/- A document that can be written is read back. -/
theorem readsBack
    {document : Document}
    (hWritable : document.isWritable = true)
    (hNames :
      document.Everywhere Document.HasDistinctNames) :
    ReadsBack document := by
  induction document using Document.partsInduction with
  | null =>
      exact readsBack_scalar ⟨_, _, rfl, by decide⟩
        (fun _ _ => rfl)
  | truth b =>
      cases b with
      | false =>
          exact readsBack_scalar ⟨_, _, rfl, by decide⟩
            (fun _ _ => rfl)
      | true =>
          exact readsBack_scalar ⟨_, _, rfl, by decide⟩
            (fun _ _ => rfl)
  | whole n =>
      rcases head_integer n with ⟨c, others, hLine, hBegins⟩
      refine readsBack_scalar
        ⟨c, others, hLine, hBegins.not_opening⟩ ?_
      rw [Document.isWritable, decide_eq_true_eq] at hWritable
      exact fun rest => scalar_integer hWritable
  | float x =>
      rcases head_float x with ⟨c, others, hLine, hBegins⟩
      exact readsBack_scalar
        ⟨c, others, hLine, hBegins.not_opening⟩
        (fun _ => scalar_float x)
  | text s => exact readsBack_quoted rfl rfl
  | list items ih =>
      rw [isWritable_list] at hWritable
      rw [Document.everywhere_list] at hNames
      exact readsBack_list fun item hItem =>
        ih item hItem (hWritable item hItem)
          (hNames.2 item hItem)
  | map entries ih =>
      rw [isWritable_map] at hWritable
      rw [Document.everywhere_map] at hNames
      exact readsBack_map hNames.1 fun entry hEntry =>
        ih entry hEntry (hWritable entry hEntry)
          (hNames.2 entry hEntry)
  | other shown => exact readsBack_quoted rfl rfl

end Json

namespace Document

variable {document : Document}

/- The line of a document is the document that it restores. -/
theorem ofJson_line
    (hWritable : document.isWritable = true)
    (hNames : document.Everywhere HasDistinctNames) :
    ofJson document.line = .ok document.restored := by
  have hRead :=
    Json.readsBack hWritable hNames
      (document.line.length + 1) [] (Nat.le_succ _) .nil
  have hSkip := document.skipBlanks_line []
  rw [List.append_nil] at hRead hSkip
  rw [ofJson, hSkip, hRead]
  rfl

/- A line of too many digits is no document. -/
theorem ofJson_of_tooMany
    {digits : List Char}
    (hWhole : Text.IsWhole digits)
    (hMany : Text.longestNumeral < digits.length) :
    ofJson digits = .error (.tooManyDigits digits.length) := by
  rcases hWhole.head with ⟨c, rest, hDigits, hDigit⟩
  have hBegins : Json.BeginsNumber c := .inl (.inr hDigit)
  have hSkip : Json.skipBlanks digits = digits := by
    rw [hDigits, Json.skipBlanks, List.dropWhile_cons_of_neg
      (by rw [hBegins.not_blank]; decide)]
  have hNumber :
      Json.number digits = Json.unsigned false digits := by
    have hSign := Json.number_withSign hWhole false []
    rw [List.append_nil] at hSign
    exact hSign
  have hUnsigned :=
    Json.unsigned_whole hWhole false Json.Ends.nil
  rw [List.append_nil, if_pos hMany] at hUnsigned
  have hValue :
      Json.value (digits.length + 1) digits =
        .error (.tooManyDigits digits.length) := by
    rw [← hUnsigned, ← hNumber]
    nth_rewrite 2 3 [hDigits]
    rw [Json.value_scalar hBegins.not_opening,
      Json.scalar_of_head (.inr hDigit)]
  rw [ofJson, hSkip, hValue]
  rfl

end Document

end Spreadsheet

------------------------------------------------------------
-- Visible Characters
------------------------------------------------------------

namespace Spreadsheet

namespace Document

open Text (Visible)

/- Between parts there are commas and spaces. -/
theorem mem_of_mem_commaSeparated
    {parts : List (List Char)}
    {c : Char}
    (hMember : c ∈ Text.commaSeparated parts) :
    (∃ part ∈ parts, c ∈ part) ∨ c = ',' ∨ c = ' ' := by
  induction parts using Text.commaSeparated.induct with
  | case1 => cases hMember
  | case2 part =>
      exact .inl ⟨part, List.mem_cons_self, hMember⟩
  | case3 part rest hRest ih =>
      rw [Text.commaSeparated, List.mem_append,
        List.mem_cons, List.mem_cons] at hMember
      · rcases hMember with hPart | hComma | hSpace | hMember
        · exact .inl ⟨part, List.mem_cons_self, hPart⟩
        · exact .inr (.inl hComma)
        · exact .inr (.inr hSpace)
        · rcases ih hMember with ⟨other, hOther, hMember⟩ | hMark
          · exact .inl
              ⟨other, List.mem_cons_of_mem part hOther, hMember⟩
          · exact .inr hMark
      · exact hRest

/- Visible parts are visible between brackets and commas. -/
theorem visible_of_mem_bracketed
    {opening closing : Char}
    (hOpening : Visible opening)
    (hClosing : Visible closing)
    {parts : List (List Char)}
    (hParts : ∀ part ∈ parts, ∀ c ∈ part, Visible c)
    {c : Char}
    (hMember :
      c ∈ opening :: Text.commaSeparated parts ++ [closing]) :
    Visible c := by
  rw [List.mem_append, List.mem_cons,
    List.mem_singleton] at hMember
  rcases hMember with (rfl | hMember) | rfl
  · exact hOpening
  · rcases mem_of_mem_commaSeparated hMember with
      ⟨part, hPart, hMember⟩ | rfl | rfl
    · exact hParts part hPart c hMember
    · decide
    · decide
  · exact hClosing

/- A line has visible characters only. -/
theorem visible_of_mem_line
    {document : Document}
    {c : Char}
    (hMember : c ∈ document.line) :
    Visible c := by
  induction document using partsInduction generalizing c with
  | null =>
      have hWord : ∀ c ∈ "null".toList, Visible c := by
        simp [Visible]
      exact hWord c hMember
  | truth b =>
      have hWord : ∀ c ∈ Json.truth b, Visible c := by
        cases b with
        | false => simp [Visible, Json.truth]
        | true => simp [Visible, Json.truth]
      exact hWord c hMember
  | whole n => exact Json.visible_of_mem_integer hMember
  | float x => exact Json.visible_of_mem_float hMember
  | text s => exact Json.visible_of_mem_quoted hMember
  | list items ih =>
      rw [line_list] at hMember
      apply visible_of_mem_bracketed (by decide) (by decide)
        ?_ hMember
      intro part hPart
      rcases List.mem_map.mp hPart with ⟨item, hItem, rfl⟩
      exact fun c => ih item hItem
  | map entries ih =>
      rw [line_map] at hMember
      apply visible_of_mem_bracketed (by decide) (by decide)
        ?_ hMember
      intro part hPart c hMember
      rcases List.mem_map.mp hPart with ⟨entry, hEntry, rfl⟩
      simp only [lineEntry, lineUnder, Json.named,
        List.mem_append, List.mem_cons] at hMember
      rcases hMember with hName | rfl | rfl | hLine
      · exact Json.visible_of_mem_quoted hName
      · decide
      · decide
      · exact ih entry
          ((Entries.sorted_perm entries).mem_iff.mp hEntry)
          hLine
  | other shown => exact Json.visible_of_mem_quoted hMember

end Document

end Spreadsheet
