import Spreadsheet.Proofs.Journal.Reading
import Spreadsheet.Proofs.Json.Overlong

/-
  What is read of any log.

  A log may hold any bytes.  Every line at its end is a text,
  and a text that is no document is passed over.  Two things
  are not: a text with an integer of too many digits, and a
  document that is no map where a filter looks for a word in
  it.  The one makes every reading fail, the other those with
  such a filter; there are no other failures.

  Key definitions include:
    * `Spreadsheet.Log.texts`
    * `Spreadsheet.Log.overlong?`
    * `Spreadsheet.Filter.suits`
    * `Spreadsheet.Filter.stumbles`

  Main results:
    * `Spreadsheet.Log.documents_eq`
    * `Spreadsheet.Filter.keepAll_eq`
    * `Spreadsheet.Log.read_content`
-/

------------------------------------------------------------
-- Texts And Documents
------------------------------------------------------------

namespace Spreadsheet

namespace Log

/- The texts of the lines at the end of a log, in order. -/
def texts
    (size : Nat)
    (log : Log) :
    List (List Char) :=
  (Text.lines (Text.decode (log.tail size))).map Text.trim

/-
  How many digits the first integer has that is too long, if
  there is one in a text.
-/
def overlong?
    (text : List Char) :
    Option Nat :=
  match Document.ofJson text with
  | .error (.tooManyDigits digits) => some digits
  | _ => none

/- The document that a text is, if it is one. -/
def document?
    (text : List Char) :
    Option (Document Key) :=
  (Document.ofJson text).toOption

/-
  The first integer that is too long ends the reading of
  texts; otherwise those that are documents are read.
-/
theorem documentsOf_eq
    (lines : List (List Char)) :
    documentsOf lines =
      match (lines.map Text.trim).findSome? overlong? with
      | some digits => .error (.tooManyDigits digits)
      | none =>
          .ok ((lines.map Text.trim).filterMap document?) := by
  induction lines with
  | nil => rfl
  | cons line rest ih =>
      rw [List.map_cons, documentsOf, ih]
      generalize Text.trim line = text
      cases text with
      | nil => rfl
      | cons c text =>
          simp only [List.isEmpty_cons, Bool.false_eq_true,
            if_false, List.findSome?_cons, overlong?,
            List.filterMap_cons, document?]
          cases Document.ofJson (c :: text) with
          | error fault =>
              cases fault with
              | malformed => rfl
              | tooManyDigits digits => rfl
          | ok document =>
              simp only [Except.toOption]
              cases (rest.map Text.trim).findSome?
                  overlong? with
              | none => rfl
              | some digits => rfl

/- The documents at the end of a log are among its texts. -/
theorem documents_eq
    (size : Nat)
    (log : Log) :
    log.documents size =
      match (log.texts size).findSome? overlong? with
      | some digits => .error (.tooManyDigits digits)
      | none => .ok ((log.texts size).filterMap document?) :=
  documentsOf_eq _

end Log

end Spreadsheet

------------------------------------------------------------
-- Words In Documents
------------------------------------------------------------

namespace Spreadsheet

namespace Document

/- A document that has entries. -/
def isMap :
    Document Key → Bool
  | map _ => true
  | _ => false

/- What a document has under a name, if it is a map. -/
def entry?
    (name : String) :
    Document Key → Option (Document Key)
  | map entries => Entries.get? entries name
  | _ => none

/- What a document has under a name is there and is no map. -/
def hasOtherThanMap
    (name : String)
    (document : Document Key) :
    Bool :=
  (document.entry? name).any fun entry => !entry.isMap

end Document

namespace Filter

/- A filter looks for a word if one is given. -/
def seeks
    (word : Option String) :
    Bool :=
  word.any fun word => !word.isEmpty

/- The cell that the data around the event name. -/
def cellOf
    (document : Document Key) :
    Option (Document Key) :=
  (document.entry? "context").bind fun context =>
    context.entry? "cell"

/- A document has the level and the type looked for. -/
def suitsKind
    (filter : Filter)
    (document : Document Key) :
    Bool :=
  asks filter.level (document.entry? "level") &&
    asks filter.type (document.entry? "event_type")

/- A document has all that a filter looks for. -/
def suits
    (filter : Filter)
    (document : Document Key) :
    Bool :=
  filter.suitsKind document &&
    asks filter.cell (cellOf document)

/-
  A filter that looks for a word meets a document that is no
  map, or one that looks for a cell meets a document of the
  level and type looked for whose context is no map.
-/
def stumbles
    (filter : Filter)
    (document : Document Key) :
    Bool :=
  (!document.isMap && (seeks filter.level ||
    seeks filter.type || seeks filter.cell)) ||
  (seeks filter.cell && filter.suitsKind document &&
    document.hasOtherThanMap "context")

/- Without a word that is looked for, everything passes. -/
theorem asks_of_not_seeks
    {word : Option String}
    (hSeeks : seeks word = false)
    (given : Option (Document Key)) :
    asks word given = true := by
  cases word with
  | none => rfl
  | some word =>
      have hEmpty : word.isEmpty = true := by
        simpa [seeks] using hSeeks
      simp only [asks, hEmpty, Bool.true_or]

theorem stumbles_all
    (document : Document Key) :
    all.stumbles document = false := by
  simp [stumbles, all, seeks]

/- A word is looked for in maps only, if all goes well. -/
theorem isMap_of_not_stumbles
    {filter : Filter}
    {document : Document Key}
    (hGoes : filter.stumbles document = false)
    (hSeeks :
      seeks filter.level ∨ seeks filter.type ∨
        seeks filter.cell) :
    document.isMap = true := by
  rw [stumbles, Bool.or_eq_false_iff] at hGoes
  rw [← or_assoc, ← Bool.or_eq_true, ← Bool.or_eq_true]
    at hSeeks
  rw [hSeeks, Bool.and_true, Bool.not_eq_false'] at hGoes
  exact hGoes.1

end Filter

end Spreadsheet

------------------------------------------------------------
-- Tests That Fail
------------------------------------------------------------

namespace Spreadsheet

namespace Filter

/- Documents are kept unless the test of one of them fails. -/
theorem keep_eq
    {test : Document Key → Except LogFault Bool}
    {fails passes : Document Key → Bool}
    (hTest : ∀ document,
      test document =
        if fails document then
          .error .noMap
        else
          .ok (passes document))
    (documents : List (Document Key)) :
    keep test documents =
      if documents.any fails then
        .error .noMap
      else
        .ok (documents.filter passes) := by
  induction documents with
  | nil => rfl
  | cons document rest ih =>
      rw [keep, hTest, ih, List.any_cons, List.filter_cons]
      cases fails document with
      | true => rfl
      | false =>
          cases rest.any fails with
          | true => rfl
          | false => cases passes document <;> rfl

theorem keepIf_eq
    {test : String → Document Key → Except LogFault Bool}
    {fails : Document Key → Bool}
    {given : Document Key → Option (Document Key)}
    (hTest : ∀ word document,
      test word document =
        if fails document then
          .error .noMap
        else
          .ok (isText word (given document)))
    (word : Option String)
    (documents : List (Document Key)) :
    keepIf word test documents =
      if seeks word && documents.any fails then
        .error .noMap
      else
        .ok (documents.filter fun document =>
          asks word (given document)) := by
  cases word with
  | none =>
      simp only [keepIf, seeks, Option.any_none,
        Bool.false_and, Bool.false_eq_true, if_false, asks,
        List.filter_true]
  | some word =>
      cases hEmpty : word.isEmpty with
      | true =>
          simp only [keepIf, seeks, Option.any_some, hEmpty,
            Bool.not_true, Bool.false_and,
            Bool.false_eq_true, if_false, if_true, asks,
            Bool.true_or, List.filter_true]
      | false =>
          simp only [keepIf, seeks, Option.any_some, hEmpty,
            Bool.not_false, Bool.true_and,
            Bool.false_eq_true, if_false, asks,
            Bool.false_or]
          exact keep_eq (hTest word) documents

/- A word can be looked for in maps only. -/
theorem hasText_eq
    (name word : String)
    (document : Document Key) :
    hasText name word document =
      if !document.isMap then
        .error .noMap
      else
        .ok (isText word (document.entry? name)) := by
  cases document <;> rfl

/- And a cell only in maps whose context is none or a map. -/
theorem hasCell_eq
    (word : String)
    (document : Document Key) :
    hasCell word document =
      if !document.isMap ||
          document.hasOtherThanMap "context" then
        .error .noMap
      else
        .ok (isText word (cellOf document)) := by
  cases document with
  | map entries =>
      have hCell :
          hasCell word (.map entries) =
            hasText "cell" word
              ((Entries.get? entries "context").getD
                (.map [])) :=
        rfl
      have hNothing :
          Entries.get? ([] : Entries Key) "cell" = none :=
        rfl
      rw [hCell, hasText_eq]
      cases hContext : Entries.get? entries "context" with
      | none =>
          simp [hContext, hNothing, Document.isMap, cellOf,
            Document.entry?, Document.hasOtherThanMap]
      | some context =>
          simp [hContext, Document.isMap, cellOf,
            Document.entry?, Document.hasOtherThanMap]
  | null => rfl
  | truth b => rfl
  | whole n => rfl
  | float x => rfl
  | text s => rfl
  | list items => rfl
  | other shown => rfl

end Filter

end Spreadsheet

------------------------------------------------------------
-- Filters On Any Documents
------------------------------------------------------------

namespace Spreadsheet

namespace Filter

/- The three tests of a filter, one after the other. -/
def keepAll
    (filter : Filter)
    (documents : List (Document Key)) :
    Except LogFault (List (Document Key)) := do
  let found ←
    keepIf filter.level (hasText "level") documents
  let found ← keepIf filter.type (hasText "event_type") found
  keepIf filter.cell hasCell found

/- What comes behind a test is done unless the test fails. -/
theorem bind_unless
    (fails : Bool)
    (found : List (Document Key))
    (next :
      List (Document Key) →
        Except LogFault (List (Document Key))) :
    ((if fails then .error .noMap else .ok found) >>= next) =
      if fails then .error .noMap else next found := by
  cases fails with
  | true => rfl
  | false => rfl

variable (filter : Filter)
variable (documents : List (Document Key))

/- Each of them fails on what the ones before it have kept. -/
theorem keepAll_eq :
    filter.keepAll documents =
      if seeks filter.level &&
          documents.any fun document => !document.isMap then
        .error .noMap
      else if seeks filter.type &&
          (documents.filter fun document =>
            asks filter.level (document.entry? "level")).any
              fun document => !document.isMap then
        .error .noMap
      else if seeks filter.cell &&
          (documents.filter filter.suitsKind).any
            fun document => !document.isMap ||
              document.hasOtherThanMap "context" then
        .error .noMap
      else
        .ok (documents.filter filter.suits) := by
  have hKind :
      (documents.filter fun document =>
          asks filter.level (document.entry? "level")).filter
        (fun document =>
          asks filter.type (document.entry? "event_type")) =
        documents.filter filter.suitsKind := by
    rw [List.filter_filter]
    exact List.filter_congr fun _ _ => Bool.and_comm _ _
  have hSuits :
      (documents.filter filter.suitsKind).filter
          (fun document =>
            asks filter.cell (cellOf document)) =
        documents.filter filter.suits := by
    rw [List.filter_filter]
    exact List.filter_congr fun _ _ => Bool.and_comm _ _
  rw [keepAll, keepIf_eq (hasText_eq "level"), bind_unless,
    keepIf_eq (hasText_eq "event_type"), bind_unless, hKind,
    keepIf_eq hasCell_eq, hSuits]

variable {filter : Filter}
variable {documents : List (Document Key)}

/- No test fails on documents on which a filter goes well. -/
theorem keepAll_of_not_stumbles
    (hGoes : ∀ document ∈ documents,
      filter.stumbles document = false) :
    filter.keepAll documents =
      .ok (documents.filter filter.suits) := by
  rw [keepAll_eq, if_neg, if_neg, if_neg]
  all_goals
    intro hFails
    rw [Bool.and_eq_true, List.any_eq_true] at hFails
    rcases hFails with ⟨hSeeks, document, hDocument, hOther⟩
  · rw [List.mem_filter] at hDocument
    have hStumbles := hGoes document hDocument.1
    simp_all [stumbles]
  · have hStumbles :=
      hGoes document (List.mem_filter.mp hDocument).1
    simp_all [stumbles]
  · have hStumbles := hGoes document hDocument
    simp_all [stumbles]

/-
  A document that comes to the last test, and whose context it
  cannot look into, makes it fail if none has failed before.
-/
theorem keepAll_of_context
    {document : Document Key}
    (hDocument : document ∈ documents)
    (hSeeks : seeks filter.cell = true)
    (hKind : filter.suitsKind document = true)
    (hContext :
      (!document.isMap ||
        document.hasOtherThanMap "context") = true) :
    filter.keepAll documents = .error .noMap := by
  have hFails :
      (seeks filter.cell &&
        (documents.filter filter.suitsKind).any
          fun document => !document.isMap ||
            document.hasOtherThanMap "context") = true := by
    rw [hSeeks, Bool.true_and, List.any_eq_true]
    exact ⟨document,
      List.mem_filter.mpr ⟨hDocument, hKind⟩, hContext⟩
  rw [keepAll_eq, if_pos hFails, ite_self, ite_self]

/- What is no map comes to the first test that is made. -/
theorem keepAll_of_no_map
    {document : Document Key}
    (hDocument : document ∈ documents)
    (hMap : document.isMap = false)
    (hSeeks :
      seeks filter.level = true ∨ seeks filter.type = true ∨
        seeks filter.cell = true) :
    filter.keepAll documents = .error .noMap := by
  have hOther : (!document.isMap) = true := by
    rw [hMap]
    rfl
  cases hLevel : seeks filter.level with
  | true =>
      have hFails :
          (documents.any fun document => !document.isMap) =
            true :=
        List.any_eq_true.mpr ⟨document, hDocument, hOther⟩
      rw [keepAll_eq, hLevel, hFails]
      rfl
  | false =>
      have hPasses :=
        asks_of_not_seeks hLevel (document.entry? "level")
      cases hType : seeks filter.type with
      | true =>
          have hFails :
              ((documents.filter fun document =>
                asks filter.level
                  (document.entry? "level")).any
                    fun document => !document.isMap) =
                true :=
            List.any_eq_true.mpr ⟨document,
              List.mem_filter.mpr ⟨hDocument, hPasses⟩,
              hOther⟩
          rw [keepAll_eq, hLevel, hType, hFails]
          rfl
      | false =>
          have hCell : seeks filter.cell = true := by
            simpa [hLevel, hType] using hSeeks
          have hKind : filter.suitsKind document = true := by
            rw [suitsKind, hPasses, asks_of_not_seeks hType]
            rfl
          apply keepAll_of_context hDocument hCell hKind
          rw [hOther, Bool.true_or]

/- A document on which a filter stumbles makes a test fail. -/
theorem keepAll_of_stumbles
    {document : Document Key}
    (hDocument : document ∈ documents)
    (hStumbles : filter.stumbles document = true) :
    filter.keepAll documents = .error .noMap := by
  rw [stumbles, Bool.or_eq_true] at hStumbles
  rcases hStumbles with hOther | hContext
  · simp only [Bool.and_eq_true, Bool.or_eq_true,
      Bool.not_eq_true', or_assoc] at hOther
    exact keepAll_of_no_map hDocument hOther.1 hOther.2
  · simp only [Bool.and_eq_true] at hContext
    apply keepAll_of_context hDocument hContext.1.1
      hContext.1.2
    rw [hContext.2, Bool.or_true]

end Filter

end Spreadsheet

------------------------------------------------------------
-- Reading Any Log
------------------------------------------------------------

namespace Spreadsheet

namespace Log

variable (log : Log)
variable (filter : Filter)

/- To read is to keep what a filter lets pass of documents. -/
theorem read_eq
    (size : Nat) :
    log.read filter size =
      (log.documents size >>= filter.keepAll).map
        fun found =>
          Filter.limited filter.limit found.reverse := by
  unfold read Filter.keepAll
  cases log.documents size with
  | error fault => rfl
  | ok documents =>
      simp only [bind, Except.bind]
      cases Filter.keepIf filter.level
          (Filter.hasText "level") documents with
      | error fault => rfl
      | ok byLevel =>
          simp only
          cases Filter.keepIf filter.type
              (Filter.hasText "event_type") byLevel with
          | error fault => rfl
          | ok byType =>
              simp only
              cases Filter.keepIf filter.cell Filter.hasCell
                  byType with
              | error fault => rfl
              | ok byCell => rfl

variable {log filter}
variable {size : Nat}

/- A text that is too long to be read has the digits in a row. -/
theorem hasNumeral_of_overlong
    {digits : Nat}
    (hOverlong :
      (log.texts size).findSome? overlong? = some digits) :
    ∃ text ∈ log.texts size, Json.HasNumeral digits text := by
  rcases List.exists_of_findSome?_eq_some hOverlong with
    ⟨text, hText, hDigits⟩
  refine ⟨text, hText, Document.hasNumeral_of_tooMany ?_⟩
  unfold overlong? at hDigits
  split at hDigits
  · rename_i more hMany
    rw [← Option.some.inj hDigits]
    exact hMany
  · cases hDigits

theorem read_of_overlong
    {digits : Nat}
    (hOverlong :
      (log.texts size).findSome? overlong? = some digits) :
    log.read filter size = .error (.tooManyDigits digits) := by
  rw [read_eq, documents_eq, hOverlong]
  rfl

theorem read_of_stumbles
    (hShort : (log.texts size).findSome? overlong? = none)
    {document : Document Key}
    (hDocument :
      document ∈ (log.texts size).filterMap document?)
    (hStumbles : filter.stumbles document = true) :
    log.read filter size = .error .noMap := by
  rw [read_eq, documents_eq, hShort]
  simp only [bind, Except.bind,
    Filter.keepAll_of_stumbles hDocument hStumbles]
  rfl

theorem read_of_not_stumbles
    (hLimit : 0 ≤ filter.limit)
    (hShort : (log.texts size).findSome? overlong? = none)
    (hGoes :
      ∀ document ∈ (log.texts size).filterMap document?,
        filter.stumbles document = false) :
    log.read filter size =
      .ok ((((log.texts size).filterMap document?).filter
        filter.suits).reverse.take
          (min filter.limit 2000).toNat) := by
  rw [read_eq, documents_eq, hShort]
  simp only [bind, Except.bind,
    Filter.keepAll_of_not_stumbles hGoes, Except.map,
    Filter.limited_of_nonneg hLimit]

/- One of the three happens to every reading. -/
theorem read_cases
    (log : Log)
    (filter : Filter)
    (hLimit : 0 ≤ filter.limit)
    (size : Nat) :
    let documents := (log.texts size).filterMap document?
    (∃ digits,
      (log.texts size).findSome? overlong? = some digits ∧
        log.read filter size =
          .error (.tooManyDigits digits)) ∨
    ((log.texts size).findSome? overlong? = none ∧
      (∃ document ∈ documents,
        filter.stumbles document = true) ∧
      log.read filter size = .error .noMap) ∨
    ((log.texts size).findSome? overlong? = none ∧
      (∀ document ∈ documents,
        filter.stumbles document = false) ∧
      log.read filter size =
        .ok ((documents.filter filter.suits).reverse.take
          (min filter.limit 2000).toNat)) := by
  intro documents
  rcases Option.eq_none_or_eq_some
      ((log.texts size).findSome? overlong?) with
    hShort | ⟨digits, hOverlong⟩
  · by_cases hStumbles :
        ∃ document ∈ documents,
          filter.stumbles document = true
    · rcases hStumbles with ⟨document, hDocument, hTrue⟩
      exact .inr (.inl ⟨hShort, ⟨document, hDocument, hTrue⟩,
        read_of_stumbles hShort hDocument hTrue⟩)
    · have hGoes :
          ∀ document ∈ documents,
            filter.stumbles document = false := by
        intro document hDocument
        rw [← Bool.not_eq_true]
        intro hTrue
        exact hStumbles ⟨document, hDocument, hTrue⟩
      exact .inr (.inr ⟨hShort, hGoes,
        read_of_not_stumbles hLimit hShort hGoes⟩)
  · exact .inl
      ⟨digits, hOverlong, read_of_overlong hOverlong⟩

/-
  A log of any bytes can be read unless one of its texts has
  an integer of too many digits or a filter stumbles on one of
  its documents.  Then the documents that suit the filter are
  found, the latest first and no more than the limit, and what
  is found by a word are maps.
-/
theorem read_content
    (log : Log)
    (filter : Filter)
    (hLimit : 0 ≤ filter.limit)
    (size : Nat) :
    let documents := (log.texts size).filterMap document?
    (∀ found,
      log.read filter size = .ok found ↔
        (log.texts size).findSome? overlong? = none ∧
        (∀ document ∈ documents,
          filter.stumbles document = false) ∧
        found =
          (documents.filter filter.suits).reverse.take
            (min filter.limit 2000).toNat) ∧
    (Filter.seeks filter.level ∨ Filter.seeks filter.type ∨
        Filter.seeks filter.cell →
      ∀ found, log.read filter size = .ok found →
        ∀ document ∈ found, document.isMap = true) ∧
    (∀ digits,
      log.read filter size =
          .error (.tooManyDigits digits) ↔
        (log.texts size).findSome? overlong? =
          some digits) ∧
    (∀ digits,
      log.read filter size =
          .error (.tooManyDigits digits) →
        ∃ text ∈ log.texts size,
          Json.HasNumeral digits text) ∧
    (log.read filter size = .error .noMap ↔
      (log.texts size).findSome? overlong? = none ∧
        ∃ document ∈ documents,
          filter.stumbles document = true) := by
  intro documents
  rcases read_cases log filter hLimit size with
    ⟨digits, hOverlong, hRead⟩ |
      ⟨hShort, hStumbles, hRead⟩ | ⟨hShort, hGoes, hRead⟩
  · have hNumeral := hasNumeral_of_overlong hOverlong
    refine ⟨?_, ?_, ?_, ?_, ?_⟩
    · simp [hRead, hOverlong]
    · simp [hRead]
    · simp [hRead, hOverlong]
    · intro more hMany
      rw [hRead] at hMany
      cases hMany
      exact hNumeral
    · simp [hRead, hOverlong]
  · have hNotAll :
        ¬∀ document ∈ documents,
          filter.stumbles document = false := by
      rcases hStumbles with ⟨document, hDocument, hTrue⟩
      intro hGoes
      rw [hGoes document hDocument] at hTrue
      cases hTrue
    refine ⟨?_, ?_, ?_, ?_, ?_⟩
    · intro found
      rw [hRead]
      constructor
      · intro hFound
        cases hFound
      · intro hAll
        exact (hNotAll hAll.2.1).elim
    · simp [hRead]
    · simp [hRead, hShort]
    · simp [hRead]
    · exact ⟨fun _ => ⟨hShort, hStumbles⟩, fun _ => hRead⟩
  · refine ⟨?_, ?_, ?_, ?_, ?_⟩
    · intro found
      rw [hRead, Except.ok.injEq]
      exact ⟨fun hFound => ⟨hShort, hGoes, hFound.symm⟩,
        fun hFound => hFound.2.2.symm⟩
    · intro hSeeks found hFound document hDocument
      rw [hRead, Except.ok.injEq] at hFound
      rw [← hFound] at hDocument
      have hMember := List.mem_of_mem_take hDocument
      rw [List.mem_reverse, List.mem_filter] at hMember
      exact Filter.isMap_of_not_stumbles
        (hGoes document hMember.1) hSeeks
    · simp [hRead, hShort]
    · simp [hRead]
    · rw [hRead]
      constructor
      · intro hFound
        cases hFound
      · rintro ⟨-, document, hDocument, hTrue⟩
        rw [hGoes document hDocument] at hTrue
        cases hTrue

/- A line that was torn and a list. -/
def tornThenList : Log :=
  ⟨["\x7b\"torn\n[]\n".toList.map fun c => c.toNat.toUInt8]⟩

theorem texts_tornThenList :
    tornThenList.texts 100 =
      ["\x7b\"torn".toList, "[]".toList] := by
  decide +kernel

/- Only the list is found of them. -/
theorem read_content_torn :
    0 ≤ Filter.all.limit ∧
      tornThenList.read Filter.all 100 = .ok [.list []] := by
  have hLimit : 0 ≤ Filter.all.limit := by decide
  have hContent :=
    read_content tornThenList Filter.all hLimit 100
  rw [texts_tornThenList] at hContent
  exact ⟨hLimit, (hContent.1 _).mpr
    ⟨rfl, fun document _ => Filter.stumbles_all document,
      rfl⟩⟩

/- A line of so many digits. -/
def numeral
    (length : Nat) :
    Log :=
  ⟨[Text.encode (Text.fed [List.replicate length '1'])]⟩

theorem visible_ones
    (length : Nat) :
    ∀ line ∈ [List.replicate length '1'], ∀ c ∈ line,
      Text.Visible c := by
  intro line hLine c hMember
  rw [List.mem_singleton.mp hLine] at hMember
  rw [List.eq_of_mem_replicate hMember]
  decide

/- They are a number, and no blanks are around it. -/
theorem isWhole_ones
    (length : Nat) :
    Text.IsWhole (List.replicate (length + 1) '1') where
  isDigit c hMember := by
    rw [List.eq_of_mem_replicate hMember]
    rfl
  ne_nil := List.cons_ne_nil _ _
  zero_alone := by
    right
    rintro _ ⟨rfl⟩
    decide

theorem trim_ones
    (length : Nat) :
    Text.trim (List.replicate (length + 2) '1') =
      List.replicate (length + 2) '1' := by
  rw [List.replicate_succ, List.replicate_succ',
    ← List.cons_append]
  exact Text.trim_of_ends rfl rfl _

/- Nothing can be read if the end of the log has the line. -/
theorem read_numeral
    {length : Nat}
    (hLength : Text.longestNumeral < length)
    (filter : Filter)
    {size : Nat}
    (hSize : (numeral length).bytes.length ≤ size) :
    (numeral length).read filter size =
      .error (.tooManyDigits length) := by
  have hSome : ∃ more, length = more + 2 := by
    refine ⟨length - 2, ?_⟩
    unfold Text.longestNumeral at hLength
    omega
  rcases hSome with ⟨more, rfl⟩
  let digits := List.replicate (more + 2) '1'
  have hTail :
      (numeral (more + 2)).tail size =
        Text.encode (Text.fed [digits]) := by
    rw [tail, if_pos hSize]
    exact List.append_nil _
  have hTexts :
      (numeral (more + 2)).texts size = [digits] := by
    rw [texts, hTail, Text.lines_decode_fed (visible_ones _),
      List.map_singleton, trim_ones]
  have hMany : Text.longestNumeral < digits.length := by
    rwa [List.length_replicate]
  have hOverlong :
      overlong? digits = some digits.length := by
    rw [overlong?, Document.ofJson_of_tooMany
      (isWhole_ones (more + 1)) hMany]
  rw [List.length_replicate] at hOverlong
  apply read_of_overlong
  rw [hTexts, List.findSome?_singleton, hOverlong]

/-
  But it is no map in which a word could be looked for, and
  of a number of 4301 digits nothing can be read at all.
-/
theorem read_other_content :
    tornThenList.read ⟨some "info", none, none, 200⟩ 100 =
        .error .noMap ∧
      (numeral 4301).read Filter.all 10000 =
        .error (.tooManyDigits 4301) := by
  constructor
  · apply read_of_stumbles
    · rw [texts_tornThenList]
      rfl
    · rw [texts_tornThenList]
      exact List.mem_singleton_self (Document.list [])
    · rfl
  · have hBytes : (numeral 4301).bytes.length ≤ 10000 := by
      rw [numeral, bytes, List.reverse_singleton,
        List.flatten_singleton, Text.encode_of_ascii fun _ =>
          Text.ascii_of_mem_fed (visible_ones _),
        List.length_map, Text.fed, List.flatMap_singleton,
        List.length_append, List.length_replicate]
      decide
    exact read_numeral (by decide) Filter.all hBytes

end Log

end Spreadsheet
