import Spreadsheet.Journal
import Spreadsheet.Proofs.Document.Merge

/-
  Long texts around events.

  A path leads into a document, through names of maps and
  places of lists.  How the document at its end is cut depends
  on the path alone: texts are cut below the names of maps and
  in lists, but not in a list that is an item of another list.
  What is cut once is not cut again, and apart from long texts
  everything is where it was.

  Key definitions include:
    * `Spreadsheet.Document.at?`
    * `Spreadsheet.Document.Cutting`
    * `Spreadsheet.Document.EntersInnerList`
    * `Spreadsheet.IsCut`
    * `Spreadsheet.Document.KeepsForm`

  Main results:
    * `Spreadsheet.Document.at?_cut`
    * `Spreadsheet.Event.context_texts_cut`
    * `Spreadsheet.Event.inner_text_not_cut`
    * `Spreadsheet.Entries.truncated_keeps_form`
-/

------------------------------------------------------------
-- Paths
------------------------------------------------------------

namespace Spreadsheet

namespace Document

/- A step into a document: to a name or to a place in a list. -/
inductive Step where
  | entry (name : String)
  | item (index : Nat)
deriving DecidableEq, Repr

/- The part of a document to which a step leads. -/
def part? :
    Document → Step → Option Document
  | map entries, .entry name => Entries.get? entries name
  | list items, .item index => items[index]?
  | _, _ => none

/- The document at the end of a path. -/
def at?
    (document : Document) :
    List Step → Option Document
  | [] => some document
  | step :: path =>
      (document.part? step).bind fun part => part.at? path

/- A path leads into a list that is an item of another list. -/
def EntersInnerList
    (path : List Step) :
    Prop :=
  ∃ outer inner, [.item outer, .item inner] <:+: path

end Document

end Spreadsheet

------------------------------------------------------------
-- Cut Texts
------------------------------------------------------------

namespace Spreadsheet

/-
  A text is what is left of another one: all of it, or else
  its first characters with a mark behind them.
-/
def IsCut
    (original text : String) :
    Prop :=
  original.length ≤ longestText ∧ text = original ∨
    longestText < original.length ∧
      text.toList =
        original.toList.take longestText ++ cutMark.toList

theorem cutText_eq
    (s : String) :
    cutText s =
      if longestText < s.length then
        String.ofList
          (s.toList.take longestText ++ cutMark.toList)
      else s := by
  rw [← String.length_toList]
  rfl

theorem isCut_cutText
    (s : String) :
    IsCut s (cutText s) := by
  rw [cutText_eq]
  by_cases hLong : longestText < s.length
  · rw [if_pos hLong]
    exact Or.inr ⟨hLong, String.toList_ofList⟩
  · rw [if_neg hLong]
    exact Or.inl ⟨Nat.le_of_not_lt hLong, rfl⟩

theorem eq_cutText_of_isCut
    {original text : String}
    (hCut : IsCut original text) :
    text = cutText original := by
  rw [cutText_eq]
  rcases hCut with ⟨hShort, rfl⟩ | ⟨hLong, hText⟩
  · rw [if_neg (Nat.not_lt.mpr hShort)]
  · rw [if_pos hLong, ← hText, String.ofList_toList]

theorem IsCut.length_le
    {original text : String}
    (hCut : IsCut original text) :
    text.length ≤ 270 := by
  rcases hCut with ⟨hShort, rfl⟩ | ⟨_, hText⟩
  · exact hShort.trans (by decide)
  · have hMark : cutMark.toList.length = 14 := by decide
    rw [← String.length_toList, hText, List.length_append,
      List.length_take, hMark]
    have hLeft : min longestText original.toList.length ≤ 256 :=
      Nat.min_le_left _ _
    omega

/-
  The text that is left with the mark is too long itself, but
  to cut it again takes away the mark and puts it back.
-/
theorem cutText_cutText
    (s : String) :
    cutText (cutText s) = cutText s := by
  rcases isCut_cutText s with ⟨_, hSame⟩ | ⟨hLong, hText⟩
  · exact congrArg cutText hSame
  · apply Eq.symm
    apply eq_cutText_of_isCut
    have hTake :
        (s.toList.take longestText).length = longestText :=
      List.length_take_of_le
        (String.length_toList ▸ hLong.le)
    refine Or.inr ⟨?_, ?_⟩
    · have hMark : 0 < cutMark.toList.length := by decide
      rw [← String.length_toList, hText, List.length_append,
        hTake]
      exact Nat.lt_add_of_pos_right hMark
    · rw [hText, List.take_append_of_le_length hTake.ge,
        List.take_of_length_le hTake.le]

end Spreadsheet

------------------------------------------------------------
-- Cutting Documents
------------------------------------------------------------

namespace Spreadsheet

namespace Document

/- An item of a list, with texts cut; a list is kept. -/
def truncatedItem :
    Document → Document
  | list items => .list items
  | document => document.truncated

theorem truncatedItems_eq
    (items : List Document) :
    truncatedItems items = items.map truncatedItem := by
  induction items with
  | nil => rfl
  | cons item rest ih =>
      rw [List.map_cons, ← ih]
      cases item with
      | null => rfl
      | truth b => rfl
      | whole n => rfl
      | float x => rfl
      | text s => rfl
      | list items => rfl
      | map entries => rfl
      | other shown => rfl

theorem truncatedEntries_eq
    (entries : Entries) :
    truncatedEntries entries =
      entries.map fun entry => (entry.1, entry.2.truncated) := by
  induction entries with
  | nil => rfl
  | cons entry rest ih =>
      rw [truncatedEntries, ih, List.map_cons]

@[simp] theorem names_truncatedEntries
    (entries : Entries) :
    Entries.names (truncatedEntries entries) =
      entries.names := by
  rw [truncatedEntries_eq, Entries.names, List.map_map]
  rfl

theorem get?_truncatedEntries
    (entries : Entries)
    (name : String) :
    Entries.get? (truncatedEntries entries) name =
      (entries.get? name).map truncated := by
  induction entries with
  | nil => rfl
  | cons entry rest ih =>
      rw [truncatedEntries, Entries.get?_cons, ih,
        Entries.get?_cons]
      split
      · rfl
      · rfl

/-
  How a document is cut: with all its parts, as an item of a
  list, or not at all.
-/
inductive Cutting where
  | whole
  | item
  | nothing
deriving DecidableEq, Repr

namespace Cutting

/- A document that is cut in a way. -/
def apply :
    Cutting → Document → Document
  | whole, document => document.truncated
  | item, document => document.truncatedItem
  | nothing, document => document

/- How a part is cut, by the step that leads to it. -/
def after :
    Cutting → Step → Cutting
  | nothing, _ => nothing
  | _, .entry _ => whole
  | whole, .item _ => item
  | item, .item _ => nothing

/- How the document at the end of a path is cut. -/
def along
    (cutting : Cutting)
    (path : List Step) :
    Cutting :=
  path.foldl after cutting

/- Nothing is cut below an item of a list that is kept. -/
theorem along_nothing
    (path : List Step) :
    nothing.along path = nothing := by
  induction path with
  | nil => rfl
  | cons step rest ih => exact ih

end Cutting

/- A part of a cut document is the part, cut in its way. -/
theorem part?_cut
    (cutting : Cutting)
    (document : Document)
    (step : Step) :
    (cutting.apply document).part? step =
      (document.part? step).map (cutting.after step).apply := by
  cases cutting with
  | whole =>
      cases document with
      | list items =>
          cases step with
          | entry name => rfl
          | item index =>
              change (truncatedItems items)[index]? = _
              rw [truncatedItems_eq, List.getElem?_map]
              rfl
      | map entries =>
          cases step with
          | entry name => exact get?_truncatedEntries _ _
          | item index => rfl
      | _ => rfl
  | item =>
      cases document with
      | list items =>
          cases step with
          | entry name => rfl
          | item index => exact Option.map_id_apply.symm
      | map entries =>
          cases step with
          | entry name => exact get?_truncatedEntries _ _
          | item index => rfl
      | _ => rfl
  | nothing => exact Option.map_id_apply.symm

theorem at?_cut
    (cutting : Cutting)
    (document : Document)
    (path : List Step) :
    (cutting.apply document).at? path =
      (document.at? path).map (cutting.along path).apply := by
  induction path generalizing cutting document with
  | nil => rfl
  | cons step rest ih =>
      rw [at?, at?, part?_cut, Option.bind_map]
      cases hPart : document.part? step with
      | none => rfl
      | some part => exact ih (cutting.after step) part

end Document

end Spreadsheet

------------------------------------------------------------
-- Lists In Lists
------------------------------------------------------------

namespace Spreadsheet

namespace Document

theorem entersInnerList_entry_iff
    {name : String}
    {path : List Step} :
    EntersInnerList (.entry name :: path) ↔
      EntersInnerList path := by
  simp [EntersInnerList, List.infix_cons_iff,
    List.cons_prefix_cons]

theorem entersInnerList_item_entry_iff
    {index : Nat}
    {name : String}
    {path : List Step} :
    EntersInnerList (.item index :: .entry name :: path) ↔
      EntersInnerList path := by
  simp [EntersInnerList, List.infix_cons_iff,
    List.cons_prefix_cons]

theorem entersInnerList_item_item
    (outer inner : Nat)
    (path : List Step) :
    EntersInnerList (.item outer :: .item inner :: path) :=
  ⟨outer, inner, [], path, rfl⟩

theorem not_entersInnerList_nil :
    ¬ EntersInnerList [] := by
  simp [EntersInnerList]

theorem not_entersInnerList_item
    (index : Nat) :
    ¬ EntersInnerList [.item index] := by
  simp [EntersInnerList, List.infix_cons_iff,
    List.cons_prefix_cons]

namespace Cutting

/-
  What is not cut is what is in an inner list.  Behind a step
  to an item one more such step leads into one, so that the
  item counts as a step of the path.
-/
theorem along_eq_nothing_iff
    (path : List Step) :
    (whole.along path = nothing ↔ EntersInnerList path) ∧
      ∀ index, item.along path = nothing ↔
        EntersInnerList (.item index :: path) := by
  induction path with
  | nil =>
      constructor
      · simp [along, not_entersInnerList_nil]
      · simp [along, not_entersInnerList_item]
  | cons step rest ih =>
      rcases ih with ⟨ihWhole, ihItem⟩
      cases step with
      | entry name =>
          constructor
          · rw [entersInnerList_entry_iff, ← ihWhole]
            rfl
          · intro index
            rw [entersInnerList_item_entry_iff, ← ihWhole]
            rfl
      | item inner =>
          constructor
          · exact ihItem inner
          · intro index
            exact iff_of_true (along_nothing rest)
              (entersInnerList_item_item index inner rest)

/- A text comes from a text, which is cut if anything is. -/
theorem apply_eq_text_iff
    {cutting : Cutting}
    {document : Document}
    {s : String} :
    cutting.apply document = .text s ↔
      ∃ original, document = .text original ∧
        (cutting = nothing → s = original) ∧
        (cutting ≠ nothing → IsCut original s) := by
  have hCut (original : String) :
      cutText original = s ↔ IsCut original s :=
    ⟨fun hSame => hSame ▸ isCut_cutText original,
      fun hIsCut => (eq_cutText_of_isCut hIsCut).symm⟩
  cases document with
  | text original =>
      cases cutting with
      | whole =>
          simpa [apply, truncated] using hCut original
      | item =>
          simpa [apply, truncatedItem, truncated]
            using hCut original
      | nothing => simp [apply, eq_comm]
  | _ => cases cutting <;> simp [apply, truncatedItem, truncated]

end Cutting

/- Which texts there are around an event after cutting. -/
theorem at?_truncated_eq_text_iff
    {context : Entries}
    {path : List Step}
    {s : String} :
    (map context.truncated).at? path = some (.text s) ↔
      ∃ original,
        (map context).at? path = some (.text original) ∧
          (EntersInnerList path → s = original) ∧
          (¬ EntersInnerList path → IsCut original s) := by
  have hCut := at?_cut .whole (.map context) path
  have hInner := (Cutting.along_eq_nothing_iff path).1
  rw [show map context.truncated =
    Cutting.whole.apply (.map context) from rfl, hCut,
    Option.map_eq_some_iff]
  simp only [Cutting.apply_eq_text_iff, ne_eq, hInner]
  constructor
  · rintro ⟨_, hAt, original, rfl, hText⟩
    exact ⟨original, hAt, hText⟩
  · rintro ⟨original, hAt, hText⟩
    exact ⟨_, hAt, original, rfl, hText⟩

end Document

end Spreadsheet

------------------------------------------------------------
-- Events
------------------------------------------------------------

namespace Spreadsheet

namespace Event

open Document (EntersInnerList)

/- The names that an event must have are short. -/
theorem length_le_of_mem_lacking
    {event : Event}
    {name : String}
    (hMember : name ∈ event.lacking) :
    name.length ≤ 270 := by
  have hShort :
      ∀ name ∈ event.type.required, name.length ≤ 270 := by
    cases event.type with
    | recalcStarted => simp [EventType.required]
    | recalcCompleted => simp [EventType.required]
    | _ =>
        intro name hName
        rw [List.mem_singleton.mp hName]
        decide
  exact hShort name (List.mem_of_mem_filter hMember)

/- A text in a list of texts is one of them. -/
theorem mem_of_at?_texts
    {names : List String}
    {path : List Document.Step}
    {s : String}
    (hAt :
      (Document.list (names.map .text)).at? path =
        some (.text s)) :
    s ∈ names := by
  match path with
  | [] => cases hAt
  | .entry name :: rest => cases hAt
  | .item index :: rest =>
      have hPart :
          (Document.list (names.map .text)).part? (.item index) =
            names[index]?.map .text :=
        List.getElem?_map
      rw [Document.at?, hPart] at hAt
      cases hName : names[index]? with
      | none =>
          rw [hName] at hAt
          cases hAt
      | some name =>
          rw [hName] at hAt
          match rest with
          | [] =>
              cases hAt
              exact List.mem_of_getElem? hName
          | .entry _ :: _ => cases hAt
          | .item _ :: _ => cases hAt

/-
  A text around an event that was marked was there before, or
  it is a name that the event lacks.
-/
theorem text_of_attributed
    {event : Event}
    {path : List Document.Step}
    {s : String}
    (hAt :
      (Document.map event.attributed.context).at? path =
        some (.text s)) :
    (Document.map event.context).at? path = some (.text s) ∨
      s ∈ event.lacking := by
  unfold attributed at hAt
  split at hAt
  case isTrue => exact Or.inl hAt
  case isFalse =>
    match path with
    | [] => cases hAt
    | .item index :: rest => cases hAt
    | .entry name :: rest =>
        rw [Document.at?, Document.part?, Entries.get?_put]
          at hAt
        by_cases hMark : name = "_missing_attribution"
        · rw [if_pos hMark] at hAt
          exact Or.inr (mem_of_at?_texts hAt)
        · rw [if_neg hMark] at hAt
          exact Or.inl hAt

/- Texts outside inner lists are short in an event for the log. -/
theorem length_le_of_prepared
    {event : Event}
    {path : List Document.Step}
    {s : String}
    (hAt :
      (Document.map event.prepared.context).at? path =
        some (.text s))
    (hOutside : ¬ EntersInnerList path) :
    s.length ≤ 270 := by
  rcases text_of_attributed hAt with hBefore | hLacking
  · rcases Document.at?_truncated_eq_text_iff.mp hBefore with
      ⟨original, _, _, hCut⟩
    exact (hCut hOutside).length_le
  · exact length_le_of_mem_lacking hLacking

/- What is emitted is put into the log as prepared, if at all. -/
theorem log_emit
    (journal : Journal)
    (time : String)
    (event : Event) :
    (journal.emit time event).1.log = journal.log ∨
      (journal.emit time event).1.log =
        journal.log.append time event.prepared := by
  unfold Journal.emit
  split
  · exact Or.inl rfl
  · by_cases hWritable :
        (event.prepared.toDocument time).isWritable
    · simp [hWritable]
    · simp [hWritable, Journal.lose]
  · exact Or.inl rfl

/-
  Which texts there are around an event after cutting: at each
  place the text that was there, whole if it has at most 256
  characters, and otherwise its first 256 characters with a
  mark; but in a list that is an item of another list it stays
  as it was.  An event that is emitted goes into the log with
  texts of at most 270 characters outside such lists.
-/
theorem context_texts_cut
    (context : Entries)
    (journal : Journal)
    (time : String)
    (event : Event) :
    (∀ (path : List Document.Step) (s : String),
      (Document.map context.truncated).at? path =
          some (.text s) ↔
        ∃ original,
          (Document.map context).at? path =
              some (.text original) ∧
            (EntersInnerList path → s = original) ∧
            (¬ EntersInnerList path → IsCut original s)) ∧
      ((journal.emit time event).1.log = journal.log ∨
        (journal.emit time event).1.log =
          journal.log.append time event.prepared) ∧
      ∀ (path : List Document.Step) (s : String),
        (Document.map event.prepared.context).at? path =
            some (.text s) →
          ¬ EntersInnerList path → s.length ≤ 270 := by
  refine ⟨?_, log_emit journal time event, ?_⟩
  · intro path s
    exact Document.at?_truncated_eq_text_iff
  · intro path s hAt hOutside
    exact length_le_of_prepared hAt hOutside

/- A text of three hundred characters. -/
def overlong : String :=
  String.ofList (List.replicate 300 'x')

/- An event about a cell with a text in a list around it. -/
def listing : Event :=
  {
    level := .warning
    type := .circularReference
    message := ""
    context :=
      [("cell", .text "A1"), ("cycle", .list [.text overlong])]
    code := none
  }

theorem context_texts_cut_listing :
    (Document.map listing.prepared.context).at?
        [.entry "cycle", .item 0] =
      some (.text (cutText overlong)) ∧
    ¬ EntersInnerList [.entry "cycle", .item 0] ∧
    (cutText overlong).length ≤ 270 := by
  have hAt :
      (Document.map listing.prepared.context).at?
          [.entry "cycle", .item 0] =
        some (.text (cutText overlong)) :=
    rfl
  have hOutside :
      ¬ EntersInnerList [.entry "cycle", .item 0] := by
    rw [Document.entersInnerList_entry_iff]
    exact Document.not_entersInnerList_item 0
  exact ⟨hAt, hOutside,
    (context_texts_cut listing.context .start "" listing).2.2
      _ _ hAt hOutside⟩

/- A text in a list in a list is left as long as it is. -/
theorem inner_text_not_cut :
    (Document.map (Entries.truncated
        [("a", .list [.list [.text overlong]])])).at?
        [.entry "a", .item 0, .item 0] =
      some (.text overlong) ∧
    ¬ overlong.length ≤ 270 ∧
    ∀ original, ¬ IsCut original overlong := by
  have hLength : overlong.length = 300 :=
    String.length_ofList.trans List.length_replicate
  have hLong : ¬ overlong.length ≤ 270 := by
    rw [hLength]
    decide
  exact ⟨rfl, hLong, fun _ hCut => hLong hCut.length_le⟩

end Event

end Spreadsheet

------------------------------------------------------------
-- What Stays
------------------------------------------------------------

namespace Spreadsheet

namespace Document

/-
  A map has a map of the same names in its place, a list one
  of the same length, a text another text, which is the same
  unless it was too long, and any other document itself.
-/
def KeepsForm :
    Document → Document → Prop
  | map entries, found =>
      ∃ others, found = .map others ∧
        Entries.names others = Entries.names entries
  | list items, found =>
      ∃ others, found = .list others ∧
        others.length = items.length
  | text s, found =>
      ∃ other, found = .text other ∧
        (s.length ≤ longestText → other = s)
  | document, found => found = document

theorem keepsForm_truncated
    (document : Document) :
    KeepsForm document document.truncated := by
  cases document with
  | map entries => exact ⟨_, rfl, names_truncatedEntries _⟩
  | list items =>
      refine ⟨_, rfl, ?_⟩
      rw [truncatedItems_eq, List.length_map]
  | text s =>
      refine ⟨_, rfl, fun hShort => ?_⟩
      rw [cutText_eq, if_neg (Nat.not_lt.mpr hShort)]
  | _ => rfl

theorem keepsForm_refl
    (document : Document) :
    KeepsForm document document := by
  cases document with
  | map entries => exact ⟨_, rfl, rfl⟩
  | list items => exact ⟨_, rfl, rfl⟩
  | text s => exact ⟨_, rfl, fun _ => rfl⟩
  | _ => rfl

theorem keepsForm_apply
    (cutting : Cutting)
    (document : Document) :
    KeepsForm document (cutting.apply document) := by
  cases cutting with
  | whole => exact keepsForm_truncated document
  | nothing => exact keepsForm_refl document
  | item =>
      cases document with
      | list items => exact keepsForm_refl _
      | _ => exact keepsForm_truncated _

/- An item that is cut like a document is cut the same again. -/
theorem truncatedItem_truncatedItem
    {item : Document}
    (hAgain : item.truncated.truncated = item.truncated) :
    item.truncatedItem.truncatedItem = item.truncatedItem := by
  cases item with
  | list items => rfl
  | _ => exact hAgain

theorem truncated_truncated
    (document : Document) :
    document.truncated.truncated = document.truncated := by
  induction document using partsInduction with
  | list items ih =>
      rw [truncated, truncated, truncatedItems_eq,
        truncatedItems_eq, List.map_map]
      congr 1
      apply List.map_congr_left
      intro item hItem
      exact truncatedItem_truncatedItem (ih item hItem)
  | map entries ih =>
      rw [truncated, truncated, truncatedEntries_eq,
        truncatedEntries_eq, List.map_map]
      congr 1
      apply List.map_congr_left
      intro entry hEntry
      exact congrArg (Prod.mk entry.1) (ih entry hEntry)
  | text s => exact congrArg Document.text (cutText_cutText s)
  | null => rfl
  | truth b => rfl
  | whole n => rfl
  | float x => rfl
  | other shown => rfl

end Document

namespace Entries

/-
  To cut the texts around an event a second time changes
  nothing, and at each place, however deep, there is after
  cutting what was there before: a map with the same names in
  the same order, a list of the same length, a text, which is
  the same one if it has at most 256 characters, or the same
  document of any other kind.
-/
theorem truncated_keeps_form
    (context : Entries) :
    context.truncated.truncated = context.truncated ∧
      context.truncated.names = context.names ∧
      ∀ path : List Document.Step,
        Option.Rel Document.KeepsForm
          ((Document.map context).at? path)
          ((Document.map context.truncated).at? path) := by
  refine ⟨?_, Document.names_truncatedEntries context, ?_⟩
  · exact Document.map.inj
      (Document.truncated_truncated (.map context))
  · intro path
    have hCut :
        (Document.map context.truncated).at? path = _ :=
      Document.at?_cut .whole (.map context) path
    rw [hCut]
    cases (Document.map context).at? path with
    | none => exact Option.Rel.none
    | some document =>
        exact Option.Rel.some (Document.keepsForm_apply _ _)

end Entries

end Spreadsheet
