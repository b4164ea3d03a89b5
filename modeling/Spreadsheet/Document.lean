import Spreadsheet.Number.Layout
import Spreadsheet.Text.Digit
import Spreadsheet.Text.Quoted

/-
  Documents.

  A document is data with names, as settings are written and
  events are recorded.  Whole numbers and floats are told
  apart.  A map keeps its entries in order and has at most one
  for a name.  Data of other kinds, such as dates in settings,
  are kept as they are shown in messages.

  The names of a document that is written are texts.  One that
  is read may have other data for names: numbers in settings,
  or texts with halves of characters.

  Key definitions include:
    * `Spreadsheet.Key`
    * `Spreadsheet.Document`
    * `Spreadsheet.Document.shown`
    * `Spreadsheet.Document.isNothing`
    * `Spreadsheet.Entries.put`
    * `Spreadsheet.Entries.merge`
-/

------------------------------------------------------------
-- Documents
------------------------------------------------------------

namespace Spreadsheet

/-
  A name in data that are read: a text, or data of another
  kind as they are shown.  Names that are shown alike and yet
  differ are told apart by a number.
-/
inductive Key where
  | text (s : String)
  | other (shown : String) (number : Nat)
deriving DecidableEq, Repr

instance : Coe String Key := ⟨.text⟩

/- Data with names of a type. -/
inductive Document (ν : Type := String) where
  | null
  | truth (b : Bool)
  | whole (n : Int)
  | float (x : Float)
  | text (s : String)
  | list (items : List (Document ν))
  | map (entries : List (ν × Document ν))
  | other (shown : String)
deriving Repr

/- The entries of a map, in order. -/
abbrev Entries (ν : Type := String) := List (ν × Document ν)

end Spreadsheet

------------------------------------------------------------
-- Entries
------------------------------------------------------------

namespace Spreadsheet

namespace Entries

variable {ν : Type}

/- The names of entries. -/
def names
    (entries : Entries ν) :
    List ν :=
  entries.map (·.1)

variable [DecidableEq ν]

/- The data under a name. -/
def get?
    (entries : Entries ν)
    (name : ν) :
    Option (Document ν) :=
  entries.lookup name

/-
  Put data under a name: in place of what was under it, or
  else at the end.
-/
def put
    (name : ν)
    (document : Document ν) :
    Entries ν → Entries ν
  | [] => [(name, document)]
  | (other, old) :: rest =>
      if other = name then
        (name, document) :: rest
      else
        (other, old) :: put name document rest

/- Put all entries of one map into another. -/
def merge
    (entries given : Entries ν) :
    Entries ν :=
  given.foldl
    (fun entries entry => entries.put entry.1 entry.2)
    entries

/- The entries of a map in which the last of a name counts. -/
def ofList
    (given : Entries ν) :
    Entries ν :=
  merge [] given

end Entries

end Spreadsheet

------------------------------------------------------------
-- Names Of Entries
------------------------------------------------------------

namespace Spreadsheet

/- Names that a message can show. -/
class Showable (ν : Type) where
  shown : ν → List Char

instance : Showable String := ⟨fun s => Text.quoted s.toList⟩

namespace Key

/- A name as a message shows it. -/
def shown :
    Key → List Char
  | text s => Text.quoted s.toList
  | other shown _ => shown.toList

/- A name as a text. -/
def word :
    Key → String
  | text s => s
  | other shown _ => shown

/- A name as data without names. -/
def toDocument
    {ν : Type} :
    Key → Document ν
  | text s => .text s
  | other shown _ => .other shown

instance : Showable Key := ⟨shown⟩

end Key

namespace Document

variable {ν μ : Type}

mutual

/- A document with other names. -/
def renamed
    (name : ν → μ) :
    Document ν → Document μ
  | null => .null
  | truth b => .truth b
  | whole n => .whole n
  | float x => .float x
  | text s => .text s
  | list items => .list (renamedItems name items)
  | map entries => .map (renamedEntries name entries)
  | other shown => .other shown
termination_by structural document => document

/- The items of a list with other names. -/
def renamedItems
    (name : ν → μ) :
    List (Document ν) → List (Document μ)
  | [] => []
  | item :: rest =>
      item.renamed name :: renamedItems name rest
termination_by structural items => items

/- The entries of a map with other names. -/
def renamedEntries
    (name : ν → μ) :
    List (ν × Document ν) → List (μ × Document μ)
  | [] => []
  | (first, document) :: rest =>
      (name first, document.renamed name) ::
        renamedEntries name rest
termination_by structural entries => entries

end

end Document

/- Entries that are given may be taken for ones that are read. -/
instance : Coe (Entries String) (Entries Key) :=
  ⟨Document.renamedEntries Key.text⟩

/- What is read may be written with names as texts. -/
instance : Coe (Entries Key) (Entries String) :=
  ⟨Document.renamedEntries Key.word⟩

instance : Coe (List (Document Key)) (List Document) :=
  ⟨Document.renamedItems Key.word⟩

end Spreadsheet

------------------------------------------------------------
-- Documents In Messages
------------------------------------------------------------

namespace Spreadsheet

namespace Document

variable {ν : Type}
variable [Showable ν]

mutual

/- A document as a message shows it. -/
def shown :
    Document ν → List Char
  | null => "None".toList
  | truth b => Text.truthWord b
  | whole n => Text.integer n
  | float x => Number.toMessage x
  | text s => Text.quoted s.toList
  | list items =>
      '[' :: Text.commaSeparated (shownItems items) ++ [']']
  | map entries =>
      '{' :: Text.commaSeparated (shownEntries entries) ++ ['}']
  | other shown => shown.toList
termination_by structural document => document

/- The items of a list as a message shows them. -/
def shownItems :
    List (Document ν) → List (List Char)
  | [] => []
  | item :: rest => item.shown :: shownItems rest
termination_by structural items => items

/- The entries of a map as a message shows them. -/
def shownEntries :
    List (ν × Document ν) → List (List Char)
  | [] => []
  | (name, document) :: rest =>
      (Showable.shown name ++ ':' :: ' ' :: document.shown) ::
        shownEntries rest
termination_by structural entries => entries

end

omit [Showable ν]

/- What no bytes and a set of nothing are shown as. -/
def hollowWords : List String := ["b''", "set()"]

/- Documents that count as nothing. -/
def isNothing :
    Document ν → Bool
  | null => true
  | truth b => !b
  | whole n => n == 0
  | float x => x == 0.0
  | text s => s.isEmpty
  | list items => items.isEmpty
  | map entries => entries.isEmpty
  | other shown => hollowWords.contains shown

end Document

end Spreadsheet
