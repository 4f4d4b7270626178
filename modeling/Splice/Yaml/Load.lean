import Splice.Yaml.Node
import Splice.Yaml.Scalar

namespace Splice.Yaml

/-!
# Values of nodes

Scalars become values at once.  A collection becomes an empty object first and is
filled later: the objects that wait are filled in rounds, and what they hold may
let further ones wait.  A node is read once, so a node that is held twice is one
object, and an object may hold itself.  Before a mapping is read, the mappings
under its merge keys are put in front of its own entries, so that its own entries
override them.

A text with several faults is refused for the one that this order meets first.
-/

/-- What an object holds: a scalar, or an object by its place. -/
inductive Piece where
  | scalar (value : Datum)
  | object (place : Nat)

/-- A collection by what it holds. -/
inductive Object where
  | list (items : List Piece)
  /-- A list of pairs. -/
  | pairs (items : List (Piece × Piece))
  | set (keys : List Datum)
  | dict (entries : List (Datum × Piece))

namespace Nodes

/--
The text of a scalar, or of the value that stands for a mapping; `fuel` bounds how
often one value stands for the next, and only what leads back to itself exhausts it.
-/
def text (nodes : Nodes) : (fuel : Nat) → NodeId → Except Fault Text
  | 0, _ => .error .endless
  | fuel + 1, id =>
      match nodes.shape id with
      | .scalar text => .ok text
      | .sequence _ => .error .malformed
      | .mapping entries =>
          match entries.find? fun entry => nodes.kind entry.1 == .value with
          | some (_, value) => text nodes fuel value
          | none => .error .malformed

/-- The value of a node that is read as a scalar of its kind. -/
def scalar (nodes : Nodes) (id : NodeId) : Except Fault Datum := do
  let kind := nodes.kind id
  if kind == .merge || kind == .value || kind == .unknown then throw .malformed
  let text ← nodes.text (nodes.size + 1) id
  match kind, nodes.shape id with
  | .timestamp, .mapping _ => throw .mappingDate
  | _, _ => scalarValue kind text

/-- The entries of a mapping. -/
def entries? (nodes : Nodes) (id : NodeId) : Option (List (NodeId × NodeId)) :=
  match nodes.shape id with
  | .mapping entries => some entries
  | _ => none

/-- Make the keys that stand for their mapping texts. -/
def withOrdinaryKeys (nodes : Nodes) (entries : List (NodeId × NodeId)) : Nodes :=
  entries.foldl (fun nodes entry =>
    if nodes.kind entry.1 == .value then nodes.setKind entry.1 .text else nodes) nodes

mutual

/--
Put the mappings under the merge keys of a mapping in front of its entries; `merged`
holds what earlier merge keys gave, and `fuel` bounds the merge keys of all mappings.
-/
def flatten (id : NodeId) (merged : List (NodeId × NodeId)) :
    (fuel : Nat) → Nodes → Except Fault Nodes
  | 0, _ => .error .malformed
  | fuel + 1, nodes => do
      let entries := (nodes.entries? id).getD []
      let isMerge (entry : NodeId × NodeId) : Bool := nodes.kind entry.1 == .merge
      match entries.find? isMerge with
      | none =>
          let whole := nodes.setShape id (.mapping (merged ++ entries))
          return whole.withOrdinaryKeys entries
      | some (_, value) =>
          -- A merge key is gone before its value is looked at, so a mapping may merge itself.
          let (further, nodes) ←
            mergeable value fuel (nodes.setShape id (.mapping (entries.eraseP isMerge)))
          flatten id (merged ++ further) fuel nodes

/-- The entries of a mapping, or of several mappings, those of the last one first. -/
def mergeable (id : NodeId) : (fuel : Nat) → Nodes → Except Fault (List (NodeId × NodeId) × Nodes)
  | 0, _ => .error .malformed
  | fuel + 1, nodes =>
      match nodes.shape id with
      | .scalar _ => .error .malformed
      | .mapping _ => flattened id fuel nodes
      | .sequence items =>
          items.foldlM (fun (later, nodes) item => do
            let (first, nodes) ← flattened item fuel nodes
            return (first ++ later, nodes)) ([], nodes)

/-- The entries of a mapping behind those that its merge keys bring. -/
def flattened (id : NodeId) : (fuel : Nat) → Nodes → Except Fault (List (NodeId × NodeId) × Nodes)
  | 0, _ => .error .malformed
  | fuel + 1, nodes =>
      match nodes.entries? id with
      | none => .error .malformed
      | some _ => do
          let nodes ← flatten id [] fuel nodes
          return ((nodes.entries? id).getD [], nodes)

end

/-- The number of entries of all mappings. -/
def entryCount (nodes : Nodes) : Nat :=
  nodes.foldl (fun count node =>
    match node.shape with
    | .mapping entries => count + entries.length
    | _ => count) 0

end Nodes

/-- The values of nodes so far. -/
structure Builder where
  nodes : Nodes
  /-- What was made of each node. -/
  made : List (NodeId × Piece) := []
  objects : Array Object := #[]
  /-- The nodes whose objects wait to be filled, the last one first. -/
  waiting : List (NodeId × Nat) := []

/-- A building step. -/
abbrev Building := StateT Builder (Except Fault)

namespace Builder

/-- The object of a collection before it is filled. -/
def empty? : Kind → Option Object
  | .sequence => some (.list [])
  | .mapping => some (.dict [])
  | .set => some (.set [])
  | .orderedMap => some (.pairs [])
  | .pairs => some (.pairs [])
  | _ => none

/-- Make a node a value, unless that was done before. -/
def make (id : NodeId) : Building Piece := do
  let builder ← get
  match builder.made.lookup id with
  | some piece => return piece
  | none =>
      match empty? (builder.nodes.kind id) with
      | some object =>
          let place := builder.objects.size
          set { builder with
            made := (id, .object place) :: builder.made
            objects := builder.objects.push object
            waiting := (id, place) :: builder.waiting }
          return .object place
      | none =>
          let value ← builder.nodes.scalar id
          set { builder with made := (id, .scalar value) :: builder.made }
          return .scalar value

/-- Make the nodes of an entry values; a collection may not be a key. -/
def makeEntry (entry : NodeId × NodeId) : Building (Datum × Piece) := do
  match ← make entry.1 with
  | .object _ => throw .malformed
  | .scalar key => return (key, ← make entry.2)

/-- The entries of a mapping with their values, each key in its first place. -/
def makeEntries (id : NodeId) : Building (List (Datum × Piece)) := do
  let builder ← get
  let nodes := builder.nodes
  let (entries, nodes) ← nodes.flattened id (3 * (nodes.entryCount + 2))
  set { builder with nodes := nodes }
  return Value.ofPairs (← entries.mapM makeEntry)

/-- The nodes that a sequence holds. -/
def itemsOf (id : NodeId) : Building (List NodeId) := do
  match (← get).nodes.shape id with
  | .sequence items => return items
  | _ => throw .malformed

/-- The pair of a mapping with one entry. -/
def makePair (id : NodeId) : Building (Piece × Piece) := do
  match (← get).nodes.shape id with
  | .mapping [(key, value)] => return (← make key, ← make value)
  | _ => throw .malformed

/-- What the object of a node holds. -/
def content (id : NodeId) : Building Object := do
  match (← get).nodes.kind id with
  | .sequence => return .list (← (← itemsOf id).mapM make)
  | .set => return .set ((← makeEntries id).map Prod.fst)
  | .mapping => return .dict (← makeEntries id)
  | _ => return .pairs (← (← itemsOf id).mapM makePair)

/-- Fill the object of a node. -/
def fill (waiting : NodeId × Nat) : Building Unit := do
  let object ← content waiting.1
  modify fun builder => { builder with objects := builder.objects.setIfInBounds waiting.2 object }

/-- Fill all objects, round by round; `fuel` bounds the rounds. -/
def fillAll : (fuel : Nat) → Building Unit
  | 0 => return ()
  | fuel + 1 => do
      let round := (← get).waiting.reverse
      if round.isEmpty then return ()
      else
        modify fun builder => { builder with waiting := [] }
        round.forM fill
        fillAll fuel

/-- Make the root of a document a value, with the objects that belong to it. -/
def build (root : NodeId) (nodes : Nodes) : Except Fault (Piece × Array Object) := do
  let building : Building Piece := do
    let piece ← make root
    fillAll (nodes.size + 1)
    return piece
  let (piece, builder) ← building.run { nodes := nodes }
  return (piece, builder.objects)

end Builder

/-!
A value that holds itself has no end.  It is known up to the place where one of
its lists and dictionaries is met inside itself, which is where a walk that visits
lists and dictionaries in order turns back to what it has visited.  Such a walk
leaves pairs alone; a pair that leads back to an object around it is cut there.
-/

/-- The value of a text, or as much of it as comes before it is met inside itself. -/
structure Content where
  value : Datum
  /-- Whether the value holds itself. -/
  isEndless : Bool := false

namespace Object

/-- What stands for an object inside itself. -/
def again : Datum :=
  .text "...".toList

/-- Read items up to the first that does not end. -/
def readUntil {α β : Type} (read : α → β × Bool) : List α → List β × Bool
  | [] => ([], false)
  | item :: rest =>
      let (first, endless) := read item
      if endless then ([first], true)
      else
        let (others, endless) := readUntil read rest
        (first :: others, endless)

/-- A part of a pair, cut where an object is met inside itself; `path` leads to the part. -/
def inPair (objects : Array Object) : (fuel : Nat) → (path : List Nat) → Piece → Datum
  | 0, _, _ => again
  | _, _, .scalar value => value
  | fuel + 1, path, .object place =>
      let read := inPair objects fuel (place :: path)
      if path.contains place then again
      else
        match objects[place]? with
        | some (.list items) => .list (items.map read)
        | some (.pairs items) => .list (items.map fun pair => .tuple [read pair.1, read pair.2])
        | some (.set keys) => .set keys
        | some (.dict entries) => .dict (entries.map fun entry => (entry.1, read entry.2))
        | none => again

/-- A value up to where an object is met inside itself; `path` leads to the value. -/
def read (objects : Array Object) : (fuel : Nat) → (path : List Nat) → Piece → Datum × Bool
  | 0, _, _ => (again, true)
  | _, _, .scalar value => (value, false)
  | fuel + 1, path, .object place =>
      let inside := read objects fuel (place :: path)
      let part := inPair objects (objects.size + 1) []
      if path.contains place then (again, true)
      else
        match objects[place]? with
        | some (.list items) =>
            let (found, endless) := readUntil inside items
            (.list found, endless)
        | some (.pairs items) =>
            (.list (items.map fun pair => .tuple [part pair.1, part pair.2]), false)
        | some (.set keys) => (.set keys, false)
        | some (.dict entries) =>
            let (found, endless) := readUntil (fun entry =>
              let (value, endless) := inside entry.2
              ((entry.1, value), endless)) entries
            (.dict found, endless)
        | none => (again, true)

end Object

/-- The value of a text that holds one document; nothing at all is null. -/
def load (text : Text) : Except Fault Content := do
  match ← Nodes.read text with
  | none => return ⟨.null, false⟩
  | some (root, nodes) =>
      let (piece, objects) ← Builder.build root nodes
      let (value, isEndless) := Object.read objects (objects.size + 1) [] piece
      return ⟨value, isEndless⟩

example : (load "a: &x [*x]".toList).toOption.map Content.isEndless = some true := by
  decide +kernel

end Splice.Yaml
