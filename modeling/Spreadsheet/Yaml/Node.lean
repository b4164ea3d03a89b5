import Spreadsheet.Yaml.Tokens

/-
  Nodes of a YAML text.

  A node is a scalar, a sequence or a mapping, with the tag
  that it was given.  Anchored nodes can be named by aliases
  behind them.  A text holds at most one document.

  Key definitions include:
    * `Spreadsheet.Yaml.Node`
    * `Spreadsheet.Yaml.Reader`
    * `Spreadsheet.Yaml.node`
    * `Spreadsheet.Yaml.document?`
-/

------------------------------------------------------------
-- Nodes
------------------------------------------------------------

namespace Spreadsheet

namespace Yaml

/-
  A part of a document.  Plain scalars without a tag and those
  with the tag that means nothing have a kind by their form.
-/
inductive Node where
  | scalar
      (tag : Option (List Char))
      (text : List Char)
      (plain : Bool)
  | sequence (tag : Option (List Char)) (items : List Node)
  | mapping
      (tag : Option (List Char))
      (entries : List (Node × Node))
deriving Repr

namespace Node

/- The scalar that stands where nothing is written. -/
def empty : Node := .scalar none [] true

end Node

/- What handles of tags stand for. -/
abbrev Handles := List (List Char × List Char)

namespace Handles

/- What the handles stand for that need no directive. -/
def standard : Handles :=
  [
    (['!'], ['!']),
    (['!', '!'], "tag:yaml.org,2002:".toList)
  ]

end Handles

end Yaml

end Spreadsheet

------------------------------------------------------------
-- Readers
------------------------------------------------------------

namespace Spreadsheet

namespace Yaml

/-
  What is still to be read, what handles stand for, the names
  of all anchors so far and the anchored nodes among them that
  are complete.
-/
structure Reader where
  tokens : List Token
  handles : Handles
  names : List (List Char)
  nodes : List (List Char × Node)

/- A step of reading. -/
abbrev Read := StateT Reader (Except YamlFault)

namespace Read

/- The next token. -/
def peek :
    Read Token := do
  return (← get).tokens.headD .streamEnd

/- Step over the next token. -/
def skip :
    Read Unit :=
  modify fun reader =>
    { reader with tokens := reader.tokens.tail }

/- Step over the next token if it is a given one. -/
def skipIf
    (token : Token) :
    Read Bool := do
  if (← peek) = token then
    skip
    return true
  else
    return false

/- Step over a token that must be next. -/
def require
    (token : Token) :
    Read Unit := do
  if !(← skipIf token) then
    throw .malformed

/- The next token is one of some. -/
def isAtAny
    (tokens : List Token) :
    Read Bool := do
  return tokens.contains (← peek)

/- The node that an anchor names. -/
def anchored
    (name : List Char) :
    Read Node := do
  match (← get).nodes.lookup name with
  | some node => return node
  | none => throw .malformed

/- A new name of an anchor. -/
def openAnchor
    (name : Option (List Char)) :
    Read Unit := do
  match name with
  | none => pure ()
  | some name =>
      if (← get).names.contains name then
        throw .malformed
      modify fun reader =>
        { reader with names := name :: reader.names }

/- The node of an anchor. -/
def closeAnchor
    (name : Option (List Char))
    (node : Node) :
    Read Node := do
  match name with
  | none => pure ()
  | some name =>
      modify fun reader =>
        { reader with nodes := (name, node) :: reader.nodes }
  return node

/- A tag with what its handle stands for. -/
def expanded
    (handle : Option (List Char))
    (suffix : List Char) :
    Read (List Char) := do
  match handle with
  | none => return suffix
  | some handle =>
      match (← get).handles.lookup handle with
      | some expansion => return expansion ++ suffix
      | none => throw .malformed

end Read

/- An anchor and a tag, neither of which must be there. -/
structure Properties where
  anchor : Option (List Char)
  tag : Option (List Char)

namespace Read

/- The anchor that may be next. -/
def anchor? :
    Read (Option (List Char)) := do
  match ← peek with
  | .anchor name => do
      skip
      return some name
  | _ => return none

/- The tag that may be next. -/
def tag? :
    Read (Option (List Char)) := do
  match ← peek with
  | .tag handle suffix => do
      skip
      return some (← expanded handle suffix)
  | _ => return none

/- An anchor and a tag in either order. -/
def properties :
    Read Properties := do
  match ← anchor? with
  | some name => return ⟨some name, ← tag?⟩
  | none =>
      match ← tag? with
      | some tag => return ⟨← anchor?, some tag⟩
      | none => return ⟨none, none⟩

end Read

end Yaml

end Spreadsheet

------------------------------------------------------------
-- Reading Nodes
------------------------------------------------------------

namespace Spreadsheet

namespace Yaml

/- Where a node stands, which says what it may be. -/
inductive Position where
  | flow
  | block
  | entry
deriving DecidableEq, Repr

mutual

/-
  A node.  The fuel bounds the number of steps and is not used
  up by as many as there are tokens, four times over.
-/
def node :
    (fuel : Nat) → Position → Read Node
  | 0, _ => throw .malformed
  | fuel + 1, position => do
      match ← Read.peek with
      | .alias name =>
          Read.skip
          Read.anchored name
      | _ =>
          let properties ← Read.properties
          Read.openAnchor properties.anchor
          let node ← content fuel position properties
          Read.closeAnchor properties.anchor node

/- A node behind its anchor and its tag. -/
def content :
    (fuel : Nat) → Position → Properties → Read Node
  | 0, _, _ => throw .malformed
  | fuel + 1, position, properties => do
      let tag := properties.tag
      let inBlock := position != .flow
      match ← Read.peek with
      | .scalar text plain =>
          Read.skip
          return .scalar tag text plain
      | .flowSequenceStart =>
          Read.skip
          return .sequence tag (← flowItems fuel true)
      | .flowMappingStart =>
          Read.skip
          return .mapping tag (← flowEntries fuel true)
      | token =>
          if token = .blockEntry && position = .entry then
            return .sequence tag (← indentlessItems fuel)
          else if token = .blockSequenceStart && inBlock then
            Read.skip
            return .sequence tag (← blockItems fuel)
          else if token = .blockMappingStart && inBlock then
            Read.skip
            return .mapping tag (← blockEntries fuel)
          else if tag.isSome || properties.anchor.isSome then
            return .scalar tag [] true
          else
            throw .malformed

/- A node, or the empty one where one of some tokens is next. -/
def nodeUnless :
    (fuel : Nat) → Position → List Token → Read Node
  | 0, _, _ => throw .malformed
  | fuel + 1, position, ends => do
      if ← Read.isAtAny ends then
        return .empty
      else
        node fuel position

/- The items of a sequence with an indentation of its own. -/
def blockItems :
    (fuel : Nat) → Read (List Node)
  | 0 => throw .malformed
  | fuel + 1 => do
      if ← Read.skipIf .blockEntry then
        let item ←
          nodeUnless fuel .block [.blockEntry, .blockEnd]
        return item :: (← blockItems fuel)
      else
        Read.require .blockEnd
        return []

/- The items of a sequence indented like the key in front. -/
def indentlessItems :
    (fuel : Nat) → Read (List Node)
  | 0 => throw .malformed
  | fuel + 1 => do
      if ← Read.skipIf .blockEntry then
        let item ← nodeUnless fuel .block
          [.blockEntry, .key, .value, .blockEnd]
        return item :: (← indentlessItems fuel)
      else
        return []

/- The entries of a mapping with an indentation of its own. -/
def blockEntries :
    (fuel : Nat) → Read (List (Node × Node))
  | 0 => throw .malformed
  | fuel + 1 => do
      let ends := [Token.key, .value, .blockEnd]
      if ← Read.skipIf .key then
        let key ← nodeUnless fuel .entry ends
        let value ← blockValue fuel
        return (key, value) :: (← blockEntries fuel)
      else
        Read.require .blockEnd
        return []

/- The value of an entry, empty if there is none. -/
def blockValue :
    (fuel : Nat) → Read Node
  | 0 => throw .malformed
  | fuel + 1 => do
      if ← Read.skipIf .value then
        nodeUnless fuel .entry [.key, .value, .blockEnd]
      else
        return .empty

/- The items between brackets. -/
def flowItems :
    (fuel : Nat) → (first : Bool) → Read (List Node)
  | 0, _ => throw .malformed
  | fuel + 1, first => do
      if ← Read.skipIf .flowSequenceEnd then
        return []
      else
        if !first then
          Read.require .flowEntry
        if ← Read.skipIf .key then
          let item ← flowPair fuel
          return item :: (← flowItems fuel false)
        else if ← Read.skipIf .flowSequenceEnd then
          return []
        else
          let item ← node fuel .flow
          return item :: (← flowItems fuel false)

/- An item between brackets that is one entry of a mapping. -/
def flowPair :
    (fuel : Nat) → Read Node
  | 0 => throw .malformed
  | fuel + 1 => do
      let ends := [Token.flowEntry, .flowSequenceEnd]
      let key ← nodeUnless fuel .flow (.value :: ends)
      let value ←
        if ← Read.skipIf .value then
          nodeUnless fuel .flow ends
        else
          pure .empty
      return .mapping none [(key, value)]

/- The entries between braces. -/
def flowEntries :
    (fuel : Nat) → (first : Bool) → Read (List (Node × Node))
  | 0, _ => throw .malformed
  | fuel + 1, first => do
      if ← Read.skipIf .flowMappingEnd then
        return []
      else
        if !first then
          Read.require .flowEntry
        let ends := [Token.flowEntry, .flowMappingEnd]
        if ← Read.skipIf .key then
          let key ← nodeUnless fuel .flow (.value :: ends)
          let value ←
            if ← Read.skipIf .value then
              nodeUnless fuel .flow ends
            else
              pure .empty
          return (key, value) :: (← flowEntries fuel false)
        else if ← Read.skipIf .flowMappingEnd then
          return []
        else
          let key ← node fuel .flow
          return (key, .empty) :: (← flowEntries fuel false)

end

end Yaml

end Spreadsheet

------------------------------------------------------------
-- Documents
------------------------------------------------------------

namespace Spreadsheet

namespace Yaml

/- Directives in front of a document. -/
structure Directives where
  version : Bool
  handles : Handles

namespace Directives

/- Add a directive; each may be given once. -/
def add
    (directives : Directives) :
    Directive → Except YamlFault Directives
  | .version major _ =>
      if directives.version || major ≠ 1 then
        .error .malformed
      else
        .ok { directives with version := true }
  | .tag handle expansion =>
      if (directives.handles.lookup handle).isSome then
        .error .malformed
      else
        .ok {
          directives with
          handles :=
            directives.handles ++ [(handle, expansion)]
        }
  | .other => .ok directives

/- The directives that tokens start with, and the rest. -/
def read
    (directives : Directives) :
    List Token → Except YamlFault (Directives × List Token)
  | .directive directive :: rest => do
      (← directives.add directive).read rest
  | tokens => .ok (directives, tokens)

end Directives

/- A token in front of which a document is empty. -/
def Token.isOutside :
    Token → Bool
  | .directive _ => true
  | .documentStart => true
  | .documentEnd => true
  | .streamEnd => true
  | _ => false

/- A document behind its mark, with what handles stand for. -/
def content?
    (handles : Handles)
    (tokens : List Token) :
    Except YamlFault (Node × List Token) :=
  if (tokens.headD .streamEnd).isOutside then
    .ok (.empty, tokens)
  else do
    let (node, reader) ←
      (node (4 * tokens.length + 4) .block).run
        ⟨tokens, handles, [], []⟩
    return (node, reader.tokens)

/- A document with its directives and its mark. -/
def markedDocument
    (tokens : List Token) :
    Except YamlFault (Node × List Token) := do
  let (directives, rest) ← Directives.read ⟨false, []⟩ tokens
  match rest with
  | .documentStart :: rest =>
      content? (directives.handles ++ Handles.standard) rest
  | _ => throw .malformed

/- A token that a document without a mark cannot start with. -/
def startsMarked :
    Token → Bool
  | .directive _ => true
  | .documentStart => true
  | _ => false

/- What is left behind a document must be nothing. -/
def isFinished
    (tokens : List Token) :
    Bool :=
  match tokens.dropWhile (· = .documentEnd) with
  | [.streamEnd] => true
  | _ => false

/- The only document of a text, if it has one. -/
def document?
    (text : List Char) :
    Except YamlFault (Option Node) := do
  let found ← tokens text
  let first := found.headD .streamEnd
  if first = .streamEnd then
    return none
  let (node, rest) ←
    if startsMarked first then
      markedDocument found
    else
      (do
        let (node, reader) ←
          (node (4 * found.length + 4) .block).run
            ⟨found, .standard, [], []⟩
        return (node, reader.tokens))
  if isFinished rest then
    return some node
  else
    throw .malformed

end Yaml

end Spreadsheet
