import Spreadsheet.Proofs.Journal.Window
import Spreadsheet.Proofs.Json.Lines

/-
  Records of a log.

  What is written to a log are records, each an event at a
  time.  Their lines are framed by line feeds, and an end of
  the log of any size is read as records that follow one
  another up to the latest.

  Key definitions include:
    * `Spreadsheet.Log.Record`
    * `Spreadsheet.Log.writeAll`
    * `Spreadsheet.Log.written`
    * `Spreadsheet.Log.kept`

  Main results:
    * `Spreadsheet.Log.bytes_writeAll`
    * `Spreadsheet.Log.documents_writeAll`
-/

------------------------------------------------------------
-- Records
------------------------------------------------------------

namespace Spreadsheet

namespace Log

/- An event with the time at which it happened. -/
structure Record where
  time : String
  event : Event

namespace Record

/- The document of a record. -/
def document
    (record : Record) :
    Document :=
  record.event.toDocument record.time

/- The characters of its line. -/
def line
    (record : Record) :
    List Char :=
  record.document.line

/- What the line of a record restores. -/
def restored
    (record : Record) :
    Document Key :=
  record.document.restored

/- A line of a record is a map between its braces. -/
theorem line_eq
    (record : Record) :
    ∃ middle, record.line = '\x7b' :: middle ++ ['\x7d'] :=
  ⟨_, Document.line_map _⟩

/- There are no blanks around it. -/
theorem trim_line
    (record : Record) :
    Text.trim record.line = record.line := by
  rcases record.line_eq with ⟨middle, hLine⟩
  rw [hLine]
  exact Text.trim_of_ends rfl rfl middle

theorem visible_of_mem_line
    {record : Record}
    {c : Char}
    (hMember : c ∈ record.line) :
    Text.Visible c :=
  Document.visible_of_mem_line hMember

end Record

/- Append the records of events one after the other. -/
def writeAll
    (log : Log)
    (records : List Record) :
    Log :=
  records.foldl
    (fun log record => log.append record.time record.event) log

/- The records that can be written. -/
def written
    (records : List Record) :
    List Record :=
  records.filter fun record => record.document.isWritable

/- The lines of records as bytes. -/
def lineBytes
    (records : List Record) :
    List (List UInt8) :=
  records.map fun record => Text.encode record.line

/- The number of records that the end of a size leaves whole. -/
def kept
    (records : List Record)
    (size : Nat) :
    Nat :=
  (written records).length -
    skipped size (lineBytes (written records))

end Log

end Spreadsheet

------------------------------------------------------------
-- Bytes Of Records
------------------------------------------------------------

namespace Spreadsheet

namespace Log

/- What is added to a log comes behind its bytes. -/
theorem bytes_add
    (log : Log)
    (bytes : List UInt8) :
    (log.add bytes).bytes = log.bytes ++ bytes := by
  simp [Log.bytes, add]

/- Lines and their line feeds are framed bytes. -/
theorem encode_fed
    (records : List Record) :
    Text.encode (Text.fed (records.map Record.line)) =
      framed (lineBytes records) := by
  induction records with
  | nil => rfl
  | cons record rest ih =>
      have hBytes :
          framed (lineBytes (record :: rest)) =
            Text.encode record.line ++
              lineFeed :: framed (lineBytes rest) :=
        framed_cons _ _
      rw [hBytes, ← ih, List.map_cons, Text.fed,
        List.flatMap_cons, Text.encode, List.flatMap_append,
        List.flatMap_append, List.append_assoc]
      rfl

/- A record comes behind the others, if it can be written. -/
theorem bytes_append
    (log : Log)
    (record : Record) :
    (log.append record.time record.event).bytes =
      log.bytes ++ framed (lineBytes (written [record])) := by
  have hAppend :
      log.append record.time record.event =
        if record.document.isWritable then
          log.add (Text.encode (record.line ++ ['\n']))
        else
          log :=
    rfl
  rw [hAppend, written, List.filter_singleton]
  cases record.document.isWritable with
  | false => exact (List.append_nil _).symm
  | true =>
      have hLine := encode_fed [record]
      rw [List.map_singleton, Text.fed,
        List.flatMap_singleton] at hLine
      simp only [if_true, cond_true, bytes_add, hLine]

/- The bytes of a log are the lines of its records. -/
theorem bytes_writeAll
    (log : Log)
    (records : List Record) :
    (log.writeAll records).bytes =
      log.bytes ++ framed (lineBytes (written records)) := by
  induction records generalizing log with
  | nil => exact (List.append_nil _).symm
  | cons record rest ih =>
      have hWritten :
          written (record :: rest) =
            written [record] ++ written rest :=
        List.filter_append [record] rest
      have hBytes :
          framed (lineBytes (written (record :: rest))) =
            framed (lineBytes (written [record])) ++
              framed (lineBytes (written rest)) := by
        rw [hWritten, lineBytes, List.map_append, framed,
          List.flatMap_append]
        rfl
      rw [hBytes, ← List.append_assoc, ← bytes_append]
      exact ih (log.append record.time record.event)

/- No line of a record holds a line feed. -/
theorem lineFeed_not_mem
    {records : List Record}
    {part : List UInt8}
    (hPart : part ∈ lineBytes records) :
    lineFeed ∉ part := by
  rcases List.mem_map.mp hPart with ⟨record, -, rfl⟩
  rw [Text.encode_of_ascii fun c hMember =>
    (Record.visible_of_mem_line hMember).ascii]
  intro hFeed
  rcases List.mem_map.mp hFeed with ⟨c, hMember, hByte⟩
  have hVisible := Record.visible_of_mem_line hMember
  have hCode := congrArg UInt8.toNat hByte
  rw [Nat.toUInt8_eq, UInt8.toNat_ofNat',
    Nat.mod_eq_of_lt (by have := hVisible.ascii; omega)]
    at hCode
  have hSpace := hVisible.1
  change c.toNat = 10 at hCode
  omega

end Log

end Spreadsheet

------------------------------------------------------------
-- Documents Of Records
------------------------------------------------------------

namespace Spreadsheet

namespace Log

/- Records whose maps have each name once. -/
def Distinct
    (records : List Record) : Prop :=
  ∀ record ∈ records,
    record.document.Everywhere Document.HasDistinctNames

/- The lines of records that can be written are read. -/
theorem documentsOf_lines
    {records : List Record}
    (hNames : Distinct records)
    (hWritable : ∀ record ∈ records,
      record.document.isWritable = true) :
    documentsOf (records.map Record.line) =
      .ok (records.map Record.restored) := by
  induction records with
  | nil => rfl
  | cons record rest ih =>
      rw [Distinct, List.forall_mem_cons] at hNames
      rw [List.forall_mem_cons] at hWritable
      have hSome : record.line.isEmpty = false := by
        rcases record.line_eq with ⟨middle, hLine⟩
        rw [hLine]
        rfl
      have hRead :
          Document.ofJson record.line = .ok record.restored :=
        Document.ofJson_line hWritable.1 hNames.1
      rw [List.map_cons, documentsOf, record.trim_line, hSome,
        hRead]
      simp only [Bool.false_eq_true, if_false]
      rw [ih hNames.2 hWritable.2]
      rfl

/- The longer the end, the more records it leaves whole. -/
theorem kept_mono
    (records : List Record)
    {size larger : Nat}
    (hLarger : size ≤ larger) :
    kept records size ≤ kept records larger :=
  Nat.sub_le_sub_left (skipped_antitone hLarger _) _

/- An end as long as the log leaves all of them whole. -/
theorem kept_of_length_le
    {records : List Record}
    {size : Nat}
    (hSize : (empty.writeAll records).bytes.length ≤ size) :
    kept records size = (written records).length := by
  rw [bytes_writeAll] at hSize
  have hBytes :
      (framed (lineBytes (written records))).length ≤ size :=
    hSize
  rw [kept, skipped_eq_zero hBytes, Nat.sub_zero]

/-
  The end of a log is read as the latest records, all of those
  that it leaves whole.
-/
theorem documents_writeAll
    {records : List Record}
    (hNames : Distinct records)
    (size : Nat) :
    (empty.writeAll records).documents size =
      .ok ((((written records).reverse.take
        (kept records size)).reverse).map
          Record.restored) := by
  let parts := lineBytes (written records)
  let left := (written records).drop (skipped size parts)
  have hKept :
      ((written records).reverse.take
        (kept records size)).reverse = left := by
    have hReverse :
        left.reverse =
          (written records).reverse.take
            (kept records size) :=
      List.reverse_drop
    rw [← hReverse, List.reverse_reverse]
  have hLeft : ∀ record ∈ left, record ∈ written records :=
    fun _ => List.mem_of_mem_drop
  have hBytes :
      (empty.writeAll records).bytes = framed parts :=
    bytes_writeAll empty records
  have hTail :
      (empty.writeAll records).tail size =
        Text.encode (Text.fed (left.map Record.line)) := by
    rw [tail_framed hBytes (fun _ => lineFeed_not_mem) size,
      encode_fed]
    exact congrArg framed List.map_drop.symm
  have hVisible :
      ∀ line ∈ left.map Record.line, ∀ c ∈ line,
        Text.Visible c := by
    intro line hLine
    rcases List.mem_map.mp hLine with ⟨record, -, rfl⟩
    exact fun _ => Record.visible_of_mem_line
  rw [hKept, documents, hTail, Text.lines_decode_fed hVisible]
  apply documentsOf_lines
  · exact fun record hRecord =>
      hNames record (List.mem_filter.mp (hLeft _ hRecord)).1
  · exact fun record hRecord =>
      (List.mem_filter.mp (hLeft _ hRecord)).2

end Log

end Spreadsheet
