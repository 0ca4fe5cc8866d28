import CoverAudit.Yaml.Node
import CoverAudit.Yaml.Scalar

/-!
# Meaning of a YAML document

The values of a document form a graph: a collection may stand in several places and may hold itself,
so collections are listed by number and values refer to them.

* `Graph.items?` and `Graph.entries?` look into a collection.
* `load` reads a document. Collections are filled in the order in which they are met, breadth first,
  so that of two faults the one nearer to the root is reported.
* Behind the key `<<` stand mappings whose entries come before the mapping's own; of equal keys the
  last one counts.
-/

namespace CoverAudit.Yaml

/-- A value in a document. -/
inductive Item where
  | scalar (value : Scalar)
  /-- The collection with a number. -/
  | collection (number : Nat)
  /-- A key with its value, as an item of a list. -/
  | pair (key value : Item)
  deriving DecidableEq, Repr

namespace Item

/-- No value. -/
abbrev null : Item := .scalar .null

/-- Whether a value may be a key. -/
def isKey : Item → Bool
  | .scalar _ => true
  | _ => false

end Item

/-- What a collection holds. -/
inductive Collection where
  | list (items : List Item)
  | mapping (entries : List (Item × Item))
  | set (members : List Item)
  deriving DecidableEq, Repr

/-- The values of a document. -/
structure Graph where
  root : Item
  collections : List (Nat × Collection)

namespace Graph

/-- The collection that a value is. -/
def collection? (graph : Graph) : Item → Option Collection
  | .collection number => (graph.collections.find? (·.1 = number)).map (·.2)
  | _ => none

/-- The items of a value that is a list. -/
def items? (graph : Graph) (item : Item) : Option (List Item) :=
  match graph.collection? item with
  | some (.list items) => some items
  | _ => none

/-- The entries of a value that is a mapping. -/
def entries? (graph : Graph) (item : Item) : Option (List (Item × Item)) :=
  match graph.collection? item with
  | some (.mapping entries) => some entries
  | _ => none

end Graph

/-- The value under a text in the entries of a mapping: the last one, if there are several. -/
def lookup? (name : String) (entries : List (Item × Item)) : Option Item :=
  (entries.reverse.find? fun entry => entry.1 = .scalar (.text name)).map (·.2)

namespace Graph

/-- How far the values of a document are known. -/
structure Build.State where
  /-- The entries of mappings in which merging has changed something. -/
  merged : List (Nat × List (Node × Node)) := []
  /-- The keys `=` that are plain texts, because they are keys of a mapping. -/
  plainKeys : List Nat := []
  /-- The nodes of collections that are still to be filled. -/
  queue : List Node := []
  /-- The numbers of the collections met so far. -/
  met : List Nat := []
  collections : List (Nat × Collection) := []

/-- A step towards the values of a document. -/
abbrev Build := StateT Build.State (Except Fault)

namespace Build

/-- The node that an alias stands for. -/
def target (document : Document) : Node → Node
  | .alias anchor => document.anchors.getD anchor (.alias anchor)
  | node => node

/-- The number of a node. -/
def numberOf : Node → Nat
  | .scalar number _ _ => number
  | .sequence number _ _ => number
  | .mapping number _ _ => number
  | .alias _ => 0

/-- The tag of a node. -/
def tagOf (node : Node) : Build Tag := do
  let tag := match node with
    | .scalar _ tag _ => tag
    | .sequence _ tag _ => tag
    | .mapping _ tag _ => tag
    | .alias _ => .unknown
  if tag = .defaultValue && (← get).plainKeys.contains (numberOf node) then return .text
  else return tag

/-- The entries of a mapping, after what merging has changed so far. -/
def entriesOf (node : Node) : Build (List (Node × Node)) := do
  match node with
  | .mapping number _ entries =>
    return ((← get).merged.find? (·.1 = number)).elim entries (·.2)
  | _ => return []

/-- Gives a mapping new entries. -/
def setEntries (node : Node) (entries : List (Node × Node)) : Build Unit :=
  modify fun state => { state with merged := (numberOf node, entries) :: state.merged }

/-- The place of the first key with a tag. -/
def indexOfTag? (document : Document) (tag : Tag) :
    Nat → List (Node × Node) → Build (Option Nat)
  | _, [] => return none
  | index, (key, _) :: rest => do
    if (← tagOf (target document key)) = tag then return some index
    else indexOfTag? document tag (index + 1) rest

/-- Makes the keys `=` of a mapping plain texts. -/
def markPlainKeys (document : Document) (entries : List (Node × Node)) : Build Unit :=
  modify fun state =>
    { state with
      plainKeys := entries.map (fun entry => numberOf (target document entry.1)) ++
        state.plainKeys }

/-- Merges into a mapping what stands behind its keys `<<`; `found` was found so far. A key `<<`
goes away before its value is looked at, so a mapping may be merged into itself. Every step takes
such a key away, which bounds their number by that of the nodes. -/
def merge (document : Document) : Nat → Node → List (Node × Node) → Build Unit
  | 0, _, _ => throw .malformed
  | fuel + 1, node, found => do
    let entries ← entriesOf node
    match ← indexOfTag? document .merge 0 entries with
    | none =>
      markPlainKeys document entries
      setEntries node (found ++ entries)
    | some index =>
      setEntries node (entries.eraseIdx index)
      let part (node : Node) : Build (List (Node × Node)) := do
        match target document node with
        | mapping@(.mapping ..) =>
          merge document fuel mapping []
          entriesOf mapping
        | _ => throw .malformed
      match (entries[index]?).map fun entry => target document entry.2 with
      | some (.sequence _ _ items) =>
        let parts ← items.mapM part
        merge document fuel node (found ++ parts.reverse.flatten)
      | some value => merge document fuel node (found ++ (← part value))
      | none => throw .malformed

/-- The text of a node that is to be a scalar. A mapping has the text behind its key `=`. -/
def scalarText (document : Document) : Nat → Node → Build String
  | 0, _ => throw .malformed
  | fuel + 1, node => do
    match node with
    | .scalar _ _ text => return text
    | .mapping .. =>
      let entries ← entriesOf node
      match ← indexOfTag? document .defaultValue 0 entries with
      | some index =>
        match entries[index]? with
        | some (_, value) => scalarText document fuel (target document value)
        | none => throw .malformed
      | none => throw .malformed
    | _ => throw .malformed

/-- The tags of collections. -/
def isCollectionTag (tag : Tag) : Bool :=
  [Tag.sequence, .mapping, .set, .orderedMap, .pairs].contains tag

/-- The value of a node. A collection is put off until its turn comes. -/
def item (document : Document) (node : Node) : Build Item := do
  let node := target document node
  let number := numberOf node
  let tag ← tagOf node
  if isCollectionTag tag then
    if !(← get).met.contains number then
      modify fun state =>
        { state with met := number :: state.met, queue := state.queue ++ [node] }
    return .collection number
  else if tag = .unknown then throw .malformed
  else
    let text ← scalarText document (document.size + 1) node
    return .scalar (← Scalar.read tag text)

/-- The entries of a mapping with their values. Collections can not be keys. -/
def entries (document : Document) (node : Node) : Build (List (Item × Item)) := do
  match node with
  | .mapping .. =>
    merge document (document.size + 1) node []
    (← entriesOf node).mapM fun (key, value) => do
      let key ← item document key
      if !key.isKey then throw .malformed
      return (key, ← item document value)
  | _ => throw .malformed

/-- The only entry of a mapping, as an item of a list. -/
def pair (document : Document) (node : Node) : Build Item := do
  let node := target document node
  match node, ← entriesOf node with
  | .mapping .., [(key, value)] => return .pair (← item document key) (← item document value)
  | _, _ => throw .malformed

/-- What the collection of a node holds. -/
def content (document : Document) (node : Node) : Build Collection := do
  match ← tagOf node, node with
  | .mapping, _ => return .mapping (← entries document node)
  | .set, _ => return .set ((← entries document node).map (·.1))
  | .sequence, .sequence _ _ items => return .list (← items.mapM (item document))
  | .orderedMap, .sequence _ _ items => return .list (← items.mapM (pair document))
  | .pairs, .sequence _ _ items => return .list (← items.mapM (pair document))
  | _, _ => throw .malformed

/-- Fills the collections that wait, and those that come up meanwhile. -/
def fill (document : Document) : Nat → Build Unit
  | 0 => pure ()
  | fuel + 1 => do
    match (← get).queue with
    | [] => pure ()
    | node :: rest =>
      modify fun state => { state with queue := rest }
      let content ← content document node
      modify fun state =>
        { state with collections := (numberOf node, content) :: state.collections }
      fill document fuel

/-- All values of a document. -/
def all (document : Document) : Build Item := do
  let root ← item document document.root
  fill document document.size
  return root

end Build

/-- The values of a document. -/
def ofDocument (document : Document) : Except Fault Graph := do
  let (root, state) ← (Build.all document).run {}
  return { root, collections := state.collections }

end Graph

/-- Reads the values of a document. A text that holds no document has no value. -/
def load (text : String) : Except Fault Graph := do
  match ← Document.read text with
  | some document => Graph.ofDocument document
  | none => return { root := .null, collections := [] }

end CoverAudit.Yaml
