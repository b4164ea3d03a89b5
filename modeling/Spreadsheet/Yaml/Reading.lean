import Spreadsheet.Yaml.Bytes
import Spreadsheet.Yaml.Form
import Spreadsheet.Yaml.Node

/-
  Documents read from YAML.

  Scalars stand for what their tags or else their forms say.
  A mapping takes entries over from the mappings that it
  merges unless it has entries of those names, and of entries
  with one name the last counts.  Names are texts or other
  scalars, and numbers that are equal are one name.  Bytes and
  sets are kept as they are shown, and pairs are lists.

  A document is made level by level, so that of several faults
  the one at the least depth is told.

  Key definitions include:
    * `Spreadsheet.Yaml.Kind`
    * `Spreadsheet.Yaml.Made`
    * `Spreadsheet.Yaml.namedEntries`
    * `Spreadsheet.Yaml.Node.toDocument`
    * `Spreadsheet.Document.ofYaml`
-/

------------------------------------------------------------
-- Kinds
------------------------------------------------------------

namespace Spreadsheet

namespace Yaml

/- What a node stands for by its tag. -/
inductive Kind where
  | scalar (form : Form)
  | list
  | pairs
  | map
  | set
deriving DecidableEq, Repr

/- The tags of the kinds, without what all tags start with. -/
def kindTags : List (List Char × Kind) :=
  [
    ("null".toList, .scalar .null),
    ("bool".toList, .scalar .truth),
    ("int".toList, .scalar .whole),
    ("float".toList, .scalar .float),
    ("timestamp".toList, .scalar .stamp),
    ("merge".toList, .scalar .merge),
    ("value".toList, .scalar .default),
    ("binary".toList, .scalar .binary),
    ("str".toList, .scalar .text),
    ("seq".toList, .list),
    ("omap".toList, .pairs),
    ("pairs".toList, .pairs),
    ("map".toList, .map),
    ("set".toList, .set)
  ]

/- What the tags of standard kinds start with. -/
def tagStart : List Char := "tag:yaml.org,2002:".toList

/- The kind of a standard tag; there are no other tags. -/
def tagKind
    (tag : List Char) :
    Except YamlFault Kind :=
  if tagStart.isPrefixOf tag then
    match kindTags.lookup (tag.drop tagStart.length) with
    | some kind => .ok kind
    | none => .error .malformed
  else
    .error .malformed

/- The kind by a tag, or without one that says it. -/
def kindOf
    (tag : Option (List Char))
    (untagged : Kind) :
    Except YamlFault Kind :=
  match tag with
  | none => .ok untagged
  | some ['!'] => .ok untagged
  | some tag => tagKind tag

/- The kind that a scalar has by its tag or its text. -/
def scalarKind
    (tag : Option (List Char))
    (text : List Char)
    (plain : Bool) :
    Except YamlFault Kind :=
  if tag.isNone && !plain then
    .ok (.scalar .text)
  else
    kindOf tag (.scalar (Form.ofText text))

/- The document that a text of a form stands for. -/
def ofForm
    (text : List Char) :
    Form → Except YamlFault (Document Key)
  | .null => .ok .null
  | .truth =>
      match truth? text with
      | some b => .ok (.truth b)
      | none => .error .malformed
  | .whole => (whole text).map .whole
  | .float => (float text).map .float
  | .stamp =>
      match Stamp.ofText? text with
      | some stamp => stamp.shown.map .other
      | none => .error .malformed
  | .merge => .error .malformed
  | .default => .error .malformed
  | .binary =>
      (bytes text).map fun found => .other (shownBytes found)
  | .text => .ok (.text (String.ofList text))

namespace Node

/- The kind of a node. -/
def kind :
    Node → Except YamlFault Kind
  | scalar tag text plain => scalarKind tag text plain
  | sequence tag _ => kindOf tag .list
  | mapping tag _ => kindOf tag .map

/- A node has a kind. -/
def isOfKind
    (node : Node)
    (kind : Kind) :
    Bool :=
  match node.kind with
  | .ok found => found = kind
  | .error _ => false

mutual

/- The text of a node that is read as a scalar. -/
def scalarText :
    Node → Except YamlFault (List Char)
  | scalar _ text _ => .ok text
  | sequence _ _ => .error .malformed
  | mapping _ entries => defaultText entries
termination_by structural node => node

/- The text of the entry that stands for a mapping. -/
def defaultText :
    List (Node × Node) → Except YamlFault (List Char)
  | [] => .error .malformed
  | (key, value) :: rest =>
      if key.isOfKind (.scalar .default) then
        value.scalarText
      else
        defaultText rest
termination_by structural entries => entries

end

/- What a node stands for as a scalar of a form. -/
def ofScalar
    (node : Node)
    (form : Form) :
    Except YamlFault (Document Key) := do
  ofForm (← node.scalarText) form

end Node

end Yaml

end Spreadsheet

------------------------------------------------------------
-- Names Of Entries
------------------------------------------------------------

namespace Spreadsheet

namespace Yaml

/-
  What a name is equal to: numbers equal each other by their
  values, whichever way they are written.
-/
def identity :
    Document Key → Key
  | .truth b => .other (if b then "1" else "0") 1
  | .whole n => .other (String.ofList (Text.integer n)) 1
  | .float x =>
      match Number.truncate? x with
      | some n =>
          if Number.ofInt n == x then
            .other (String.ofList (Text.integer n)) 1
          else
            .other (String.ofList (Number.toMessage x)) 1
      | none => .other (String.ofList (Number.toMessage x)) 1
  | .text s => .text s
  | document => .other (String.ofList document.shown) 0

/- The name that a document is. -/
def nameOf :
    Document Key → Key
  | .text s => .text s
  | document => .other (String.ofList document.shown) 0

/- Documents under their names, the first of equal ones. -/
def namedEntries
    (pairs : List (Document Key × Document Key)) :
    Entries Key :=
  Entries.ofList (pairs.map fun pair =>
    let first := pairs.find? fun other =>
      identity other.1 = identity pair.1
    (nameOf (first.getD pair).1, pair.2))

/- Names as a message shows a set of them. -/
def shownSet
    (names : List Key) :
    String :=
  if names.isEmpty then
    "set()"
  else
    String.ofList
      ('{' :: Text.commaSeparated (names.map Key.shown) ++
        ['}'])

end Yaml

end Spreadsheet

------------------------------------------------------------
-- Faults By Depth
------------------------------------------------------------

namespace Spreadsheet

namespace Yaml

/- A fault that is met when a depth of a document is made. -/
structure DeepFault where
  depth : Nat
  fault : YamlFault
deriving Repr

/- Something that is made of parts, or why it cannot be. -/
abbrev Made (α : Type) := Except DeepFault α

namespace Made

/- Something without parts, made at a depth. -/
def atDepth
    {α : Type}
    (depth : Nat)
    (result : Except YamlFault α) :
    Made α :=
  result.mapError fun fault => ⟨depth, fault⟩

/-
  Two things are made level by level: of their faults the one
  at the lesser depth is met, or else the first one.
-/
def both
    {α β : Type} :
    Made α → Made β → Made (α × β)
  | .ok a, .ok b => .ok (a, b)
  | .ok _, .error fault => .error fault
  | .error fault, .ok _ => .error fault
  | .error first, .error second =>
      .error (if second.depth < first.depth then
        second
      else
        first)

/- All of several things. -/
def all
    {α : Type} :
    List (Made α) → Made (List α)
  | [] => .ok []
  | first :: rest =>
      (both first (all rest)).map fun made =>
        made.1 :: made.2

end Made

end Yaml

end Spreadsheet

------------------------------------------------------------
-- Nodes
------------------------------------------------------------

namespace Spreadsheet

namespace Yaml

namespace Node

/- A name with the document under it. -/
abbrev Pair := Made (Document Key × Document Key)

/- Entries of a mapping: those it merges and its own. -/
structure Parts where
  merged : List Pair
  own : List Pair

/- The name that a node is; it must be a scalar. -/
def toName
    (depth : Nat)
    (node : Node) :
    Made (Document Key) :=
  Made.atDepth depth
    (match node.kind with
    | .ok (.scalar .default) => node.ofScalar .text
    | .ok (.scalar form) => node.ofScalar form
    | _ => .error .malformed)

/- A pair as a list. -/
def listOfPair
    (pair : Document Key × Document Key) :
    Document Key :=
  .list [pair.1, pair.2]

mutual

/- The document that a node at a depth stands for. -/
def toDocument :
    (depth : Nat) → Node → Made (Document Key)
  | depth, scalar tag text plain =>
      match scalarKind tag text plain with
      | .ok (.scalar form) => Made.atDepth depth (ofForm text form)
      | .ok _ => .error ⟨depth + 1, .malformed⟩
      | .error fault => .error ⟨depth, fault⟩
  | depth, sequence tag items =>
      match kindOf tag .list with
      | .ok .list =>
          (Made.all (toDocuments (depth + 1) items)).map .list
      | .ok .pairs =>
          (Made.all (toPairs (depth + 1) items)).map
            fun pairs => .list (pairs.map listOfPair)
      | .ok (.scalar _) => .error ⟨depth, .malformed⟩
      | .ok _ => .error ⟨depth + 1, .malformed⟩
      | .error fault => .error ⟨depth, fault⟩
  | depth, mapping tag entries =>
      let parts := toParts (depth + 1) entries
      let pairs :=
        (Made.atDepth (depth + 1) parts).bind fun parts =>
          Made.all (parts.merged ++ parts.own)
      match kindOf tag .map with
      | .ok .map =>
          pairs.map fun pairs => .map (namedEntries pairs)
      | .ok .set =>
          pairs.map fun pairs =>
            .other (shownSet (namedEntries pairs).names)
      | .ok (.scalar form) =>
          Made.atDepth depth (do ofForm (← defaultText entries) form)
      | .ok _ => .error ⟨depth + 1, .malformed⟩
      | .error fault => .error ⟨depth, fault⟩
termination_by structural _ node => node

/- The documents that nodes at a depth stand for. -/
def toDocuments :
    (depth : Nat) → List Node → List (Made (Document Key))
  | _, [] => []
  | depth, node :: rest =>
      node.toDocument depth :: toDocuments depth rest
termination_by structural _ nodes => nodes

/- The pairs that mappings with one entry each stand for. -/
def toPairs :
    (depth : Nat) → List Node → List Pair
  | _, [] => []
  | depth, mapping _ [(key, value)] :: rest =>
      Made.both (key.toDocument depth) (value.toDocument depth) ::
        toPairs depth rest
  | depth, _ :: rest =>
      .error ⟨depth, .malformed⟩ :: toPairs depth rest
termination_by structural _ nodes => nodes

/- The entries that a mapping has by merging and by itself. -/
def toParts :
    (depth : Nat) → List (Node × Node) →
      Except YamlFault Parts
  | _, [] => .ok ⟨[], []⟩
  | depth, (key, value) :: rest => do
      if key.isOfKind (.scalar .merge) then
        let given ← toMerged depth value
        let parts ← toParts depth rest
        return { parts with merged := given ++ parts.merged }
      else
        let pair :=
          Made.both (key.toName depth) (value.toDocument depth)
        let parts ← toParts depth rest
        return { parts with own := pair :: parts.own }
termination_by structural _ entries => entries

/- The entries of a mapping, or of several, to be merged. -/
def toMerged :
    (depth : Nat) → Node → Except YamlFault (List Pair)
  | _, scalar _ _ _ => .error .malformed
  | depth, sequence _ items => toMergedItems depth items
  | depth, mapping _ entries => do
      let parts ← toParts depth entries
      return parts.merged ++ parts.own
termination_by structural _ node => node

/- The entries of mappings, those of the last one first. -/
def toMergedItems :
    (depth : Nat) → List Node → Except YamlFault (List Pair)
  | _, [] => .ok []
  | depth, mapping _ entries :: rest => do
      let parts ← toParts depth entries
      let others ← toMergedItems depth rest
      return others ++ (parts.merged ++ parts.own)
  | _, _ :: _ => .error .malformed
termination_by structural _ nodes => nodes

end

end Node

end Yaml

/- The document that a text is; null if there is none in it. -/
def Document.ofYaml
    (text : List Char) :
    Except YamlFault (Document Key) := do
  match ← Yaml.document? text with
  | some node =>
      (node.toDocument 0).mapError Yaml.DeepFault.fault
  | none => return .null

end Spreadsheet
