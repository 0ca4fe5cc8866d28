import CoverAudit.Table
import CoverAudit.Yaml.Tag
import CoverAudit.Yaml.Token.Scan

/-!
# Nodes of a YAML document

A document as a tree of tagged nodes. An alias stays in the tree as a name; the anchored nodes are
listed beside the tree, so that a collection may hold itself.
-/

namespace CoverAudit.Yaml

/-- A node. Nodes that are no aliases carry a number that no other node of the document has. -/
inductive Node where
  | scalar (number : Nat) (tag : Tag) (text : String)
  | sequence (number : Nat) (tag : Tag) (items : List Node)
  | mapping (number : Nat) (tag : Tag) (entries : List (Node × Node))
  /-- A node that stands elsewhere, by its anchor. -/
  | alias (anchor : String)
  deriving Repr, Inhabited

/-- A document: its tree, its anchored nodes, and how many nodes it has. -/
structure Document where
  root : Node
  anchors : Table Node
  size : Nat

/-- What the reading of nodes keeps track of. -/
structure Compose.State where
  tokens : List Token
  /-- The meaning of tag handles. -/
  handles : List (String × String)
  /-- The anchors met so far. -/
  known : List String := []
  anchors : Table Node := Table.empty
  /-- The number of nodes met so far. -/
  size : Nat := 0

/-- A rule of the grammar of nodes. -/
abbrev Compose := StateT Compose.State Option

namespace Compose

/-- The next token. -/
def peek : Compose Token := do
  return (← get).tokens.headD .streamEnd

/-- Goes past the next token. -/
def skip : Compose Unit :=
  modify fun state => { state with tokens := state.tokens.drop 1 }

/-- Goes past one given token. -/
def expect (token : Token) : Compose Unit := do
  guard ((← peek) = token)
  skip

/-- Goes past one given token if it stands here, and says whether it did. -/
def skip? (token : Token) : Compose Bool := do
  if (← peek) = token then
    skip
    return true
  else return false

/-- A number for a node. -/
def newNumber : Compose Nat := do
  let state ← get
  set { state with size := state.size + 1 }
  return state.size

/-- The node where a node is left out. -/
def absent : Compose Node := do
  return .scalar (← newNumber) .null ""

/-- The anchor and the tag in front of a node, in either order. -/
def properties : Compose (Option String × Option (Option String × String)) := do
  let anchor? : Compose (Option String) := do
    match ← peek with
    | .anchor name =>
      skip
      return some name
    | _ => return none
  let tag? : Compose (Option (Option String × String)) := do
    match ← peek with
    | .tag handle suffix =>
      skip
      return some (handle, suffix)
    | _ => return none
  match ← anchor? with
  | some anchor => return (some anchor, ← tag?)
  | none =>
    let tag ← tag?
    if tag.isSome then return (← anchor?, tag) else return (none, none)

/-- The tag that is spelled out in front of a node; `none` where the node is to find its own. -/
def spelledTag (tag : Option (Option String × String)) : Compose (Option Tag) := do
  match tag with
  | none => return none
  | some (handle, suffix) =>
    let text ← match handle with
      | none => pure suffix
      | some handle =>
        match (← get).handles.find? (·.1 = handle) with
        | some (_, meaning) => pure (meaning ++ suffix)
        | none => failure
    return if text = "!" then none else some (Tag.ofString text)

/-- The rules for nodes that other rules come back to. -/
inductive Context where
  /-- A node in a block. -/
  | block
  /-- A node in a block that may be a sequence without indentation. -/
  | blockOrSequence
  /-- A node in a flow collection. -/
  | flow
  deriving DecidableEq

/-- How nodes are read one step deeper, and a bound on the tokens that are left. -/
structure Rules where
  limit : Nat
  node : Context → Compose Node

/-- A node, unless one of the given tokens stands in its place. -/
def nodeUnless (r : Rules) (context : Context) (closing : List Token) : Compose Node := do
  if closing.contains (← peek) then absent else r.node context

/-- The items of a block sequence behind the given ones. -/
def blockItems (r : Rules) : Nat → List Node → Compose (List Node)
  | 0, _ => failure
  | limit + 1, items => do
    if ← skip? .blockEntry then
      let item ← nodeUnless r .block [.blockEntry, .blockEnd]
      blockItems r limit (item :: items)
    else
      expect .blockEnd
      return items.reverse

/-- The items of a sequence without indentation behind the given ones. -/
def indentlessItems (r : Rules) : Nat → List Node → Compose (List Node)
  | 0, _ => failure
  | limit + 1, items => do
    if ← skip? .blockEntry then
      let item ← nodeUnless r .block [.blockEntry, .key, .value, .blockEnd]
      indentlessItems r limit (item :: items)
    else return items.reverse

/-- The value behind a key of a block mapping. -/
def blockValue (r : Rules) : Compose Node := do
  if ← skip? .value then nodeUnless r .blockOrSequence [.key, .value, .blockEnd]
  else absent

/-- The entries of a block mapping behind the given ones. -/
def blockEntries (r : Rules) : Nat → List (Node × Node) → Compose (List (Node × Node))
  | 0, _ => failure
  | limit + 1, entries => do
    if ← skip? .key then
      let key ← nodeUnless r .blockOrSequence [.key, .value, .blockEnd]
      let value ← blockValue r
      blockEntries r limit ((key, value) :: entries)
    else
      expect .blockEnd
      return entries.reverse

/-- The value behind a key in a flow collection that `close` ends. -/
def flowValue (r : Rules) (close : Token) : Compose Node := do
  if ← skip? .value then nodeUnless r .flow [.flowEntry, close] else absent

/-- The key behind its mark in a flow collection that `close` ends, and the value. -/
def flowPair (r : Rules) (close : Token) : Compose (Node × Node) := do
  let key ← nodeUnless r .flow [.value, .flowEntry, close]
  return (key, ← flowValue r close)

/-- The items of a flow sequence behind the given ones. A key makes its item a mapping. -/
def flowItems (r : Rules) : Nat → Bool → List Node → Compose (List Node)
  | 0, _, _ => failure
  | limit + 1, first, items => do
    if ← skip? .flowSequenceEnd then return items.reverse
    if !first then expect .flowEntry
    if ← skip? .key then
      let number ← newNumber
      let pair ← flowPair r .flowSequenceEnd
      flowItems r limit false (.mapping number .mapping [pair] :: items)
    else if ← skip? .flowSequenceEnd then return items.reverse
    else
      let item ← r.node .flow
      flowItems r limit false (item :: items)

/-- The entries of a flow mapping behind the given ones. -/
def flowEntries (r : Rules) : Nat → Bool → List (Node × Node) → Compose (List (Node × Node))
  | 0, _, _ => failure
  | limit + 1, first, entries => do
    if ← skip? .flowMappingEnd then return entries.reverse
    if !first then expect .flowEntry
    if ← skip? .key then
      let pair ← flowPair r .flowMappingEnd
      flowEntries r limit false (pair :: entries)
    else if ← skip? .flowMappingEnd then return entries.reverse
    else
      let key ← r.node .flow
      flowEntries r limit false ((key, ← absent) :: entries)

/-- The content of a node with the tag in front of it; `bare` says whether neither a tag nor an
anchor is. -/
def content (r : Rules) (context : Context) (tag : Option Tag) (untagged bare : Bool) :
    Compose Node := do
  let sequence (items : Compose (List Node)) : Compose Node := do
    let number ← newNumber
    return .sequence number (tag.getD .sequence) (← items)
  let mapping (entries : Compose (List (Node × Node))) : Compose Node := do
    let number ← newNumber
    return .mapping number (tag.getD .mapping) (← entries)
  let empty : Compose Node := do
    if bare then failure else return .scalar (← newNumber) (tag.getD .null) ""
  match ← peek with
  | .scalar text plain =>
    skip
    let found := if plain || !untagged then Tag.implicit text else .text
    return .scalar (← newNumber) (tag.getD found) text
  | .flowSequenceStart =>
    skip
    sequence (flowItems r r.limit true [])
  | .flowMappingStart =>
    skip
    mapping (flowEntries r r.limit true [])
  | .blockEntry =>
    if context = .blockOrSequence then sequence (indentlessItems r r.limit [])
    else empty
  | .blockSequenceStart =>
    if context = .flow then empty
    else
      skip
      sequence (blockItems r r.limit [])
  | .blockMappingStart =>
    if context = .flow then empty
    else
      skip
      mapping (blockEntries r r.limit [])
  | _ => empty

/-- A node. An alias must name an anchor met before, an anchor must be new. -/
def node (r : Rules) (context : Context) : Compose Node := do
  match ← peek with
  | .alias anchor =>
    skip
    guard ((← get).known.contains anchor)
    return .alias anchor
  | _ =>
    let (anchor, spelled) ← properties
    let tag ← spelledTag spelled
    match anchor with
    | none => content r context tag spelled.isNone spelled.isNone
    | some anchor =>
      guard !((← get).known.contains anchor)
      modify fun state => { state with known := anchor :: state.known }
      let node ← content r context tag spelled.isNone false
      modify fun state => { state with anchors := state.anchors.insert anchor node }
      return node

/-- Reads nodes that are nested at most `depth` deep. -/
def nodeAt : Nat → Context → Compose Node
  | 0, _ => failure
  | depth + 1, context => node ⟨depth, nodeAt depth⟩ context

/-- The meaning of the tag handles that need no directive. -/
def defaultHandles : List (String × String) :=
  [("!", "!"), ("!!", "tag:yaml.org,2002:")]

/-- The directives in front of a document: the tag handles. There is at most one version, which
starts with 1, and a handle has one meaning. -/
def directives : Nat → Bool → List (String × String) → Compose (List (String × String))
  | 0, _, _ => failure
  | limit + 1, versioned, handles => do
    match ← peek with
    | .directive content =>
      skip
      match content with
      | .version major =>
        guard (!versioned && major = 1)
        directives limit true handles
      | .tagHandle handle meaning =>
        guard !(handles.any (·.1 = handle))
        directives limit versioned ((handle, meaning) :: handles)
      | .other => directives limit versioned handles
    | _ => return handles ++ defaultHandles

/-- Goes past marks that end a document. -/
def documentEnds : Nat → Compose Unit
  | 0 => pure ()
  | limit + 1 => do
    if ← skip? .documentEnd then documentEnds limit

/-- The only document of a stream, or none when the stream is empty. -/
def single (limit : Nat) : Compose (Option Node) := do
  let isStart : Token → Bool
    | .directive _ => true
    | .documentStart => true
    | .streamEnd => true
    | _ => false
  let root ←
    if isStart (← peek) then do
      if (← peek) = .streamEnd then pure none
      else
        let handles ← directives limit false []
        modify fun state => { state with handles }
        expect .documentStart
        let next ← peek
        if isStart next || next = .documentEnd then some <$> absent
        else some <$> nodeAt limit .block
    else some <$> nodeAt limit .block
  documentEnds limit
  expect .streamEnd
  return root

end Compose

/-- The document in a text; `none` when there is nothing in it. -/
def Document.read (text : String) : Except Fault (Option Document) := do
  let tokens ← Token.scan text
  let limit := tokens.length + 2
  match (Compose.single limit).run { tokens, handles := Compose.defaultHandles } with
  | some (some root, state) => return some { root, anchors := state.anchors, size := state.size }
  | some (none, _) => return none
  | none => throw .malformed

end CoverAudit.Yaml
