import Mathlib.Data.List.Nodup
import Mathlib.Data.List.Sort
import Spreadsheet.Document

/-
  Documents as lines restore them.

  A line has the entries of each map sorted by their names and
  data of other kinds as text.  What it restores is equal to
  the document part by part, since the names of a map are all
  different and the order of its entries is of no account.

  Key definitions include:
    * `Spreadsheet.Entries.sorted`
    * `Spreadsheet.Document.Everywhere`
    * `Spreadsheet.Document.restored`
    * `Spreadsheet.Document.Equals`

  Main results:
    * `Spreadsheet.Document.partsInduction`
    * `Spreadsheet.Entries.ofList_of_nodup`
    * `Spreadsheet.Document.equals_restored`
-/

------------------------------------------------------------
-- Entries With Different Names
------------------------------------------------------------

namespace Spreadsheet

namespace Entries

variable {ν : Type}

@[simp] theorem names_cons
    (entry : ν × Document ν)
    (rest : Entries ν) :
    names (entry :: rest) = entry.1 :: rest.names :=
  rfl

@[simp] theorem names_append
    (first rest : Entries ν) :
    names (first ++ rest) = first.names ++ rest.names :=
  List.map_append

variable [DecidableEq ν]

/- What is under a name is in an entry of this name. -/
theorem get?_eq_some_iff
    {entries : Entries ν}
    (hNodup : entries.names.Nodup)
    {name : ν}
    {document : Document ν} :
    entries.get? name = some document ↔
      (name, document) ∈ entries := by
  induction entries with
  | nil => simp [get?]
  | cons entry rest ih =>
      rcases entry with ⟨other, first⟩
      rw [names_cons, List.nodup_cons] at hNodup
      rw [get?, List.lookup_cons, List.mem_cons]
      by_cases hSame : name = other
      · have hNone : (name, document) ∉ rest := by
          intro hMember
          have hName : name ∈ Entries.names rest :=
            List.mem_map_of_mem hMember
          exact hNodup.1 (hSame ▸ hName)
        simp [hSame, eq_comm (a := first), hSame ▸ hNone]
      · have hBeq : (name == other) = false :=
          beq_eq_false_iff_ne.mpr hSame
        simp only [hBeq, Prod.mk.injEq, hSame, false_and,
          false_or]
        exact ih hNodup.2

/- A new name is put behind the others. -/
theorem put_of_new
    {entries : Entries ν}
    {name : ν}
    (hNew : name ∉ entries.names)
    (document : Document ν) :
    entries.put name document =
      entries ++ [(name, document)] := by
  induction entries with
  | nil => rfl
  | cons entry rest ih =>
      rcases entry with ⟨other, old⟩
      rw [names_cons, List.mem_cons, not_or] at hNew
      rw [put, if_neg (fun hSame => hNew.1 hSame.symm),
        ih hNew.2, List.cons_append]

/- New names, all different, are put behind the others. -/
theorem merge_of_new
    {entries given : Entries ν}
    (hNodup : (entries ++ given).names.Nodup) :
    entries.merge given = entries ++ given := by
  induction given generalizing entries with
  | nil => exact (List.append_nil entries).symm
  | cons entry rest ih =>
      have hAll :
          ((entries ++ [entry]) ++ rest).names.Nodup := by
        rwa [List.append_assoc]
      have hNew : entry.1 ∉ entries.names := by
        rw [names_append, names_cons,
          List.nodup_append] at hNodup
        exact fun hMember =>
          hNodup.2.2 _ hMember _ List.mem_cons_self rfl
      calc
        entries.merge (entry :: rest) =
            (entries.put entry.1 entry.2).merge rest :=
          rfl
        _ = Entries.merge (entries ++ [entry]) rest := by
          rw [put_of_new hNew]
        _ = entries ++ entry :: rest := by
          rw [ih hAll, List.append_assoc]
          rfl

theorem ofList_of_nodup
    {given : Entries ν}
    (hNodup : given.names.Nodup) :
    ofList given = given :=
  merge_of_new hNodup

end Entries

end Spreadsheet

------------------------------------------------------------
-- Sorted Entries
------------------------------------------------------------

namespace Spreadsheet

namespace Entries

variable {α β : Type}

/- Data sorted by their names. -/
def sorted
    (entries : List (String × α)) :
    List (String × α) :=
  entries.insertionSort fun entry other =>
    entry.1 ≤ other.1

/- What leaves names as they are leaves them sorted. -/
theorem map_sorted
    {f : String × α → String × β}
    (hNames : ∀ entry, (f entry).1 = entry.1)
    (entries : List (String × α)) :
    (sorted entries).map f = sorted (entries.map f) := by
  apply List.map_insertionSort
  intro entry _ other _
  rw [hNames, hNames]

theorem sorted_perm
    (entries : List (String × α)) :
    (sorted entries).Perm entries :=
  List.perm_insertionSort _ entries

end Entries

end Spreadsheet

------------------------------------------------------------
-- Parts Of Documents
------------------------------------------------------------

namespace Spreadsheet

namespace Document

/-
  What holds of a list or a map whenever it holds of all its
  parts, and of every other document, holds of all.
-/
@[elab_as_elim]
theorem partsInduction
    {motive : Document → Prop}
    (null : motive .null)
    (truth : ∀ b, motive (.truth b))
    (whole : ∀ n, motive (.whole n))
    (float : ∀ x, motive (.float x))
    (text : ∀ s, motive (.text s))
    (list : ∀ items, (∀ item ∈ items, motive item) →
      motive (.list items))
    (map : ∀ entries : Entries,
      (∀ entry ∈ entries, motive entry.2) →
        motive (.map entries))
    (other : ∀ shown, motive (.other shown))
    (document : Document) :
    motive document := by
  match document with
  | .null => exact null
  | .truth b => exact truth b
  | .whole n => exact whole n
  | .float x => exact float x
  | .text s => exact text s
  | .list items =>
      exact list items fun item hItem =>
        partsInduction null truth whole float text list map
          other item
  | .map entries =>
      exact map entries fun entry hEntry =>
        partsInduction null truth whole float text list map
          other entry.2
  | .other shown => exact other shown
termination_by sizeOf document
decreasing_by
  · have hSize := List.sizeOf_lt_of_mem hItem
    simp only [Document.list.sizeOf_spec]
    omega
  · have hSize := List.sizeOf_lt_of_mem hEntry
    rcases entry with ⟨name, part⟩
    simp only [Document.map.sizeOf_spec,
      Prod.mk.sizeOf_spec] at hSize ⊢
    omega

mutual

/- Something holds of a document and of all documents in it. -/
def Everywhere
    (holds : Document → Prop) :
    Document → Prop
  | list items => holds (.list items) ∧ InItems holds items
  | map entries =>
      holds (.map entries) ∧ InEntries holds entries
  | document => holds document
termination_by structural document => document

/- Something holds everywhere in the items of a list. -/
def InItems
    (holds : Document → Prop) :
    List Document → Prop
  | [] => True
  | item :: rest =>
      item.Everywhere holds ∧ InItems holds rest
termination_by structural items => items

/- Something holds everywhere in the entries of a map. -/
def InEntries
    (holds : Document → Prop) :
    List (String × Document) → Prop
  | [] => True
  | (_, document) :: rest =>
      document.Everywhere holds ∧ InEntries holds rest
termination_by structural entries => entries

end

variable {holds : Document → Prop}

theorem everywhere_list
    {items : List Document} :
    (list items).Everywhere holds ↔
      holds (.list items) ∧
        ∀ item ∈ items, item.Everywhere holds := by
  have hItems :
      InItems holds items ↔
        ∀ item ∈ items, item.Everywhere holds := by
    induction items with
    | nil => simp [InItems]
    | cons item rest ih =>
        rw [InItems, ih, List.forall_mem_cons]
  rw [Everywhere, hItems]

theorem everywhere_map
    {entries : Entries} :
    (map entries).Everywhere holds ↔
      holds (.map entries) ∧
        ∀ entry ∈ entries, entry.2.Everywhere holds := by
  have hEntries :
      InEntries holds entries ↔
        ∀ entry ∈ entries, entry.2.Everywhere holds := by
    induction entries with
    | nil => simp [InEntries]
    | cons entry rest ih =>
        rw [InEntries, ih, List.forall_mem_cons]
  rw [Everywhere, hEntries]

/- What holds everywhere holds of the document itself. -/
theorem Everywhere.here
    {document : Document}
    (hEverywhere : document.Everywhere holds) :
    holds document := by
  cases document with
  | list items => exact (everywhere_list.mp hEverywhere).1
  | map entries => exact (everywhere_map.mp hEverywhere).1
  | null => exact hEverywhere
  | truth b => exact hEverywhere
  | whole n => exact hEverywhere
  | float x => exact hEverywhere
  | text s => exact hEverywhere
  | other shown => exact hEverywhere

theorem Everywhere.mono
    {weaker : Document → Prop}
    (hWeaker : ∀ document, holds document → weaker document)
    {document : Document}
    (hEverywhere : document.Everywhere holds) :
    document.Everywhere weaker := by
  induction document using partsInduction with
  | null => exact hWeaker _ hEverywhere
  | truth b => exact hWeaker _ hEverywhere
  | whole n => exact hWeaker _ hEverywhere
  | float x => exact hWeaker _ hEverywhere
  | text s => exact hWeaker _ hEverywhere
  | list items ih =>
      rw [everywhere_list] at hEverywhere ⊢
      exact ⟨hWeaker _ hEverywhere.1, fun item hItem =>
        ih item hItem (hEverywhere.2 item hItem)⟩
  | map entries ih =>
      rw [everywhere_map] at hEverywhere ⊢
      exact ⟨hWeaker _ hEverywhere.1, fun entry hEntry =>
        ih entry hEntry (hEverywhere.2 entry hEntry)⟩
  | other shown => exact hWeaker _ hEverywhere

/- A map has at most one entry for a name. -/
def HasDistinctNames :
    Document → Prop
  | map entries => (Entries.names entries).Nodup
  | _ => True

end Document

end Spreadsheet

------------------------------------------------------------
-- What Is Restored
------------------------------------------------------------

namespace Spreadsheet

namespace Document

mutual

/- The document that the line of a document restores. -/
def restored :
    Document → Document Key
  | null => .null
  | truth b => .truth b
  | whole n => .whole n
  | float x => .float x
  | text s => .text s
  | list items => .list (restoredItems items)
  | map entries =>
      .map ((Entries.sorted (restoredEntries entries)).map
        fun entry => (entry.1, entry.2))
  | other shown => .text shown
termination_by structural document => document

/- The items of a list that a line restores. -/
def restoredItems :
    List Document → List (Document Key)
  | [] => []
  | item :: rest => item.restored :: restoredItems rest
termination_by structural items => items

/- The entries of a map, which a line restores sorted. -/
def restoredEntries :
    List (String × Document) → List (String × Document Key)
  | [] => []
  | (name, document) :: rest =>
      (name, document.restored) :: restoredEntries rest
termination_by structural entries => entries

end

theorem restoredItems_eq
    (items : List Document) :
    restoredItems items = items.map restored := by
  induction items with
  | nil => rfl
  | cons item rest ih => rw [restoredItems, ih, List.map_cons]

/- The name of an entry with what is restored under it. -/
def restoredUnder
    (entry : String × Document) :
    String × Document Key :=
  (entry.1, entry.2.restored)

theorem restoredEntries_eq
    (entries : Entries) :
    restoredEntries entries = entries.map restoredUnder := by
  induction entries with
  | nil => rfl
  | cons entry rest ih =>
      rw [restoredEntries, ih, List.map_cons]
      rfl

/- An entry as it is restored in a map. -/
def restoredEntry
    (entry : String × Document) :
    Key × Document Key :=
  (entry.1, entry.2.restored)

/- A map is restored entry by entry, sorted by their names. -/
theorem restored_map
    (entries : Entries) :
    restored (.map entries) =
      .map ((Entries.sorted entries).map restoredEntry) := by
  rw [restored, restoredEntries_eq,
    ← Entries.map_sorted (f := restoredUnder) (fun _ => rfl),
    List.map_map]
  rfl

theorem names_map_restoredEntry
    (entries : Entries) :
    Entries.names (entries.map restoredEntry) =
      entries.names.map Key.text := by
  rw [Entries.names, Entries.names, List.map_map,
    List.map_map]
  rfl

/- Names that are different are different as names of texts. -/
theorem nodup_names_restored
    {entries : Entries}
    (hNodup : entries.names.Nodup) :
    (Entries.names ((Entries.sorted entries).map
      restoredEntry)).Nodup := by
  rw [names_map_restoredEntry]
  have hSorted : (Entries.names (Entries.sorted entries)).Nodup :=
    ((Entries.sorted_perm entries).map _).nodup_iff.mpr hNodup
  exact hSorted.map fun _ _ => Key.text.inj

/- Under a name stands what is restored of its document. -/
theorem exists_restored_map
    {entries : Entries}
    (hNodup : entries.names.Nodup) :
    ∃ found : Entries Key,
      restored (.map entries) = .map found ∧
      found.length = entries.length ∧
      ∀ name : String, found.get? name =
        (entries.get? name).map restored := by
  refine ⟨_, restored_map entries, ?_, fun name => ?_⟩
  · rw [List.length_map, (Entries.sorted_perm _).length_eq]
  · apply Option.ext
    intro document
    rw [Entries.get?_eq_some_iff (nodup_names_restored hNodup),
      Option.map_eq_some_iff]
    simp only [List.mem_map,
      (Entries.sorted_perm entries).mem_iff, restoredEntry,
      Prod.mk.injEq, Key.text.injEq,
      Entries.get?_eq_some_iff hNodup]
    constructor
    · rintro ⟨⟨_, written⟩, hMember, rfl, hRestored⟩
      exact ⟨written, hMember, hRestored⟩
    · rintro ⟨written, hMember, hRestored⟩
      exact ⟨⟨name, written⟩, hMember, rfl, hRestored⟩

end Document

end Spreadsheet

------------------------------------------------------------
-- Equality Part By Part
------------------------------------------------------------

namespace Spreadsheet

namespace Document

mutual

/-
  A document that was read equals one that was written: lists
  item by item, and maps if they have as many entries and have
  equal documents under each name.  Data of other kinds equal
  the text that shows them.
-/
def Equals :
    Document → Document Key → Prop
  | null, found => found = .null
  | truth b, found => found = .truth b
  | whole n, found => found = .whole n
  | float x, found => found = .float x
  | text s, found => found = .text s
  | list items, found =>
      ∃ others, found = .list others ∧
        ItemsEqual items others
  | map entries, found =>
      ∃ others, found = .map others ∧
        entries.length = others.length ∧
        EntriesEqual entries others
  | other shown, found => found = .text shown
termination_by structural document => document

/- Items equal others one by one. -/
def ItemsEqual :
    List Document → List (Document Key) → Prop
  | [], others => others = []
  | item :: rest, others =>
      ∃ first more, others = first :: more ∧
        item.Equals first ∧ ItemsEqual rest more
termination_by structural items => items

/- Under the names of entries others have equal documents. -/
def EntriesEqual :
    List (String × Document) → Entries Key → Prop
  | [], _ => True
  | (name, document) :: rest, others =>
      (∃ found, others.get? name = some found ∧
        document.Equals found) ∧
      EntriesEqual rest others
termination_by structural entries => entries

end

theorem equals_list_iff
    {items : List Document}
    {found : Document Key} :
    (list items).Equals found ↔
      ∃ others, found = .list others ∧
        List.Forall₂ Equals items others := by
  have hItems :
      ∀ others,
        ItemsEqual items others ↔
          List.Forall₂ Equals items others := by
    induction items with
    | nil => simp [ItemsEqual]
    | cons item rest ih =>
        intro others
        rw [ItemsEqual, List.forall₂_cons_left_iff]
        simp only [ih]
        constructor
        · rintro ⟨first, more, rfl, hFirst, hMore⟩
          exact ⟨first, more, hFirst, hMore, rfl⟩
        · rintro ⟨first, more, hFirst, hMore, rfl⟩
          exact ⟨first, more, rfl, hFirst, hMore⟩
  rw [Equals]
  simp only [hItems]

theorem equals_map_iff
    {entries : Entries}
    {found : Document Key} :
    (map entries).Equals found ↔
      ∃ others, found = .map others ∧
        entries.length = others.length ∧
        ∀ entry ∈ entries,
          ∃ document,
            Entries.get? others entry.1 = some document ∧
              entry.2.Equals document := by
  have hEntries :
      ∀ others,
        EntriesEqual entries others ↔
          ∀ entry ∈ entries,
            ∃ document,
              Entries.get? others entry.1 = some document ∧
                entry.2.Equals document := by
    intro others
    induction entries with
    | nil => simp [EntriesEqual]
    | cons entry rest ih =>
        rw [EntriesEqual, ih, List.forall_mem_cons]
  rw [Equals]
  simp only [hEntries]

/- What a line restores of a document equals it. -/
theorem equals_restored
    {document : Document}
    (hNames : document.Everywhere HasDistinctNames) :
    document.Equals document.restored := by
  induction document using partsInduction with
  | null => rfl
  | truth b => rfl
  | whole n => rfl
  | float x => rfl
  | text s => rfl
  | list items ih =>
      rw [everywhere_list] at hNames
      rw [equals_list_iff, restored, restoredItems_eq]
      refine ⟨_, rfl, ?_⟩
      rw [List.forall₂_map_right_iff, List.forall₂_same]
      exact fun item hItem => ih item hItem (hNames.2 item hItem)
  | map entries ih =>
      rw [everywhere_map] at hNames
      rcases hNames with ⟨hNodup, hParts⟩
      rcases exists_restored_map hNodup with
        ⟨found, hFound, hLength, hGet⟩
      rw [equals_map_iff]
      refine ⟨found, hFound, hLength.symm, ?_⟩
      intro entry hEntry
      refine ⟨entry.2.restored, ?_,
        ih entry hEntry (hParts entry hEntry)⟩
      rw [hGet, (Entries.get?_eq_some_iff hNodup).mpr hEntry,
        Option.map_some]
  | other shown => rfl

end Document

end Spreadsheet
