import Splice.Yaml.Lexer
import Splice.Yaml.Stamp

namespace Splice.Yaml

/-!
# From tokens to nodes

The tokens of one document form scalars, sequences and mappings.  Each node has a
place in a store, and what it holds is named by places: an alias is the place of
the node that its anchor was put on.  The anchor of a collection can be used as
soon as the collection begins, so a collection may hold itself; an anchor may be
put on one node only.  Nodes may be nested to any depth.
-/

/-- Where a node is stored. -/
abbrev NodeId := Nat

/-- What a node holds. -/
inductive Shape where
  | scalar (text : Text)
  | sequence (items : List NodeId)
  | mapping (entries : List (NodeId × NodeId))

/-- A scalar, sequence or mapping with its kind. -/
structure Node where
  kind : Kind
  shape : Shape

/-- The nodes of a document by their places. -/
abbrev Nodes := Array Node

namespace Nodes

/-- The kind of a node. -/
def kind (nodes : Nodes) (id : NodeId) : Kind :=
  (nodes[id]?.map Node.kind).getD .unknown

/-- What a node holds. -/
def shape (nodes : Nodes) (id : NodeId) : Shape :=
  (nodes[id]?.map Node.shape).getD (.scalar [])

/-- Give a node another kind. -/
def setKind (nodes : Nodes) (id : NodeId) (kind : Kind) : Nodes :=
  nodes.modify id fun node => { node with kind := kind }

/-- Let a node hold something else. -/
def setShape (nodes : Nodes) (id : NodeId) (shape : Shape) : Nodes :=
  nodes.modify id fun node => { node with shape := shape }

end Nodes

/-- The tokens still to be read, and what was stored and named so far. -/
structure Reader where
  rest : List Token
  /-- The fault that ends the tokens. -/
  fault : Option Fault
  nodes : Nodes := #[]
  /-- The node that each anchor was put on. -/
  anchors : List (Text × NodeId) := []
  /-- What each tag handle stands for. -/
  handles : List (Text × Text)

/-- A reading step. -/
abbrev Reading := StateT Reader (Except Fault)

namespace Reader

/-- What the two standard tag handles stand for. -/
def standardHandles : List (Text × Text) :=
  [(['!'], ['!']), (['!', '!'], Kind.space.toList)]

/-- The next token, if there is one. -/
def peek : Reading (Option Token) := do
  let reader ← get
  match reader.rest with
  | token :: _ => return some token
  | [] =>
      match reader.fault with
      | some fault => throw fault
      | none => return none

/-- Pass over a token. -/
def advance : Reading Unit :=
  modify fun reader => { reader with rest := reader.rest.drop 1 }

/-- Pass over a token if it is the next one. -/
def accept (token : Token) : Reading Bool := do
  if (← peek) == some token then
    advance
    return true
  else return false

/-- Pass over a token that has to come next. -/
def expect (token : Token) : Reading Unit := do
  if !(← accept token) then throw .malformed

/-- Whether the next token is one of several. -/
def isNext (choices : List Token) : Reading Bool := do
  match ← peek with
  | some token => return choices.contains token
  | none => return false

/-- Store a node. -/
def store (node : Node) : Reading NodeId := do
  let reader ← get
  set { reader with nodes := reader.nodes.push node }
  return reader.nodes.size

/-- Let a stored node hold what was read for it. -/
def hold (id : NodeId) (shape : Shape) : Reading Unit :=
  modify fun reader => { reader with nodes := reader.nodes.setShape id shape }

/-- The node where nothing is written. -/
def emptyNode : Reading NodeId :=
  store ⟨.null, .scalar []⟩

/-- The node of an alias. -/
def aliased (name : Text) : Reading NodeId := do
  match (← get).anchors.lookup name with
  | some id => return id
  | none => throw .malformed

/-- The anchor at the front. -/
def anchor? : Reading (Option Text) := do
  match ← peek with
  | some (.anchor name) => advance; return some name
  | _ => return none

/-- The tag at the front. -/
def tag? : Reading (Option WrittenTag) := do
  match ← peek with
  | some (.tag written) => advance; return some written
  | _ => return none

/-- The anchor and tag in front of a node, in either order. -/
def properties : Reading (Option Text × Option WrittenTag) := do
  match ← anchor? with
  | some name => return (some name, ← tag?)
  | none =>
      match ← tag? with
      | some written => return (← anchor?, some written)
      | none => return (none, none)

/-- A tag with its handle replaced by what the handle stands for. -/
def fullTag (written : WrittenTag) : Reading Text := do
  match written.handle with
  | none => return written.suffix
  | some handle =>
      match (← get).handles.lookup handle with
      | some start => return start ++ written.suffix
      | none => throw .malformed

/-- The kind that a tag names, unless there is none or it is only an exclamation mark. -/
def namedKind? (tag : Option Text) : Option Kind :=
  match tag with
  | none => none
  | some tag => if tag == ['!'] then none else some (Kind.ofTag tag)

/-- Store the node at which an anchor stands, which must not have been put on another one. -/
def begin (anchor : Option Text) (node : Node) : Reading NodeId := do
  match anchor with
  | none => store node
  | some name =>
      if ((← get).anchors.lookup name).isSome then throw .malformed
      else
        let id ← store node
        modify fun reader => { reader with anchors := (name, id) :: reader.anchors }
        return id

/-- The kind of a scalar. -/
def scalarKind (tag : Option Text) (plain : Bool) (text : Text) : Kind :=
  match namedKind? tag with
  | some kind => kind
  | none => if plain || tag.isSome then Kind.ofText text else .text

mutual

/-- A node; a block may begin here, or a sequence without indentation of its own, where that is said. -/
def node (block indentless : Bool) : (fuel : Nat) → Reading NodeId
  | 0 => throw .malformed
  | fuel + 1 => do
      match ← peek with
      | some (.alias name) =>
          advance
          aliased name
      | _ =>
          let (anchor, written) ← properties
          let tag ← match written with
            | none => pure none
            | some written => some <$> fullTag written
          content block indentless anchor tag fuel

/-- What follows the anchor and tag of a node; nothing may follow if there are any. -/
def content (block indentless : Bool) (anchor tag : Option Text) : (fuel : Nat) → Reading NodeId
  | 0 => throw .malformed
  | fuel + 1 => do
      let kind := namedKind? tag
      let sequence : Node := ⟨kind.getD .sequence, .sequence []⟩
      let mapping : Node := ⟨kind.getD .mapping, .mapping []⟩
      match ← peek with
      | some (.scalar text plain) =>
          let id ← begin anchor ⟨scalarKind tag plain text, .scalar text⟩
          advance
          return id
      | some .flowSequenceStart =>
          let id ← begin anchor sequence
          advance
          hold id (.sequence (← flowItems true fuel))
          return id
      | some .flowMappingStart =>
          let id ← begin anchor mapping
          advance
          hold id (.mapping (← flowEntries true fuel))
          return id
      | next =>
          if indentless && next == some .blockEntry then
            let id ← begin anchor sequence
            hold id (.sequence (← plainItems fuel))
            return id
          else if block && next == some .blockSequenceStart then
            let id ← begin anchor sequence
            advance
            hold id (.sequence (← blockItems fuel))
            return id
          else if block && next == some .blockMappingStart then
            let id ← begin anchor mapping
            advance
            hold id (.mapping (← blockEntries fuel))
            return id
          else if anchor.isSome || tag.isSome then begin anchor ⟨kind.getD .null, .scalar []⟩
          else throw .malformed

/-- The entries of a block sequence. -/
def blockItems : (fuel : Nat) → Reading (List NodeId)
  | 0 => throw .malformed
  | fuel + 1 => do
      if ← accept .blockEntry then
        let first ←
          if ← isNext [.blockEntry, .blockEnd] then emptyNode else node true false fuel
        return first :: (← blockItems fuel)
      else
        expect .blockEnd
        return []

/-- The entries of a sequence that is indented no further than the mapping around it. -/
def plainItems : (fuel : Nat) → Reading (List NodeId)
  | 0 => throw .malformed
  | fuel + 1 => do
      if ← accept .blockEntry then
        let first ←
          if ← isNext [.blockEntry, .key, .value, .blockEnd] then emptyNode
          else node true false fuel
        return first :: (← plainItems fuel)
      else return []

/-- A key or value of a block mapping, which may be left out. -/
def blockPart : (fuel : Nat) → Reading NodeId
  | 0 => throw .malformed
  | fuel + 1 => do
      if ← isNext [.key, .value, .blockEnd] then emptyNode else node true true fuel

/-- The entries of a block mapping. -/
def blockEntries : (fuel : Nat) → Reading (List (NodeId × NodeId))
  | 0 => throw .malformed
  | fuel + 1 => do
      if ← accept .key then
        let key ← blockPart fuel
        let value ← if ← accept .value then blockPart fuel else emptyNode
        return (key, value) :: (← blockEntries fuel)
      else
        expect .blockEnd
        return []

/-- A key between brackets, which may be left out. -/
def flowKey (close : Token) : (fuel : Nat) → Reading NodeId
  | 0 => throw .malformed
  | fuel + 1 => do
      if ← isNext [.value, .flowEntry, close] then emptyNode else node false false fuel

/-- A value between brackets, which may be left out together with its colon. -/
def flowValue (close : Token) : (fuel : Nat) → Reading NodeId
  | 0 => throw .malformed
  | fuel + 1 => do
      if ← accept .value then
        if ← isNext [.flowEntry, close] then emptyNode else node false false fuel
      else emptyNode

/-- The entries of a sequence between brackets; one with a colon is a mapping by itself. -/
def flowItems (first : Bool) : (fuel : Nat) → Reading (List NodeId)
  | 0 => throw .malformed
  | fuel + 1 => do
      if ← accept .flowSequenceEnd then return []
      else
        if !first then expect .flowEntry
        if ← accept .key then
          let key ← flowKey .flowSequenceEnd fuel
          let value ← flowValue .flowSequenceEnd fuel
          let pair ← store ⟨.mapping, .mapping [(key, value)]⟩
          return pair :: (← flowItems false fuel)
        else if ← accept .flowSequenceEnd then return []
        else
          let item ← node false false fuel
          return item :: (← flowItems false fuel)

/-- The entries of a mapping between braces; one without a colon has an empty value. -/
def flowEntries (first : Bool) : (fuel : Nat) → Reading (List (NodeId × NodeId))
  | 0 => throw .malformed
  | fuel + 1 => do
      if ← accept .flowMappingEnd then return []
      else
        if !first then expect .flowEntry
        if ← accept .key then
          let key ← flowKey .flowMappingEnd fuel
          let value ← flowValue .flowMappingEnd fuel
          return (key, value) :: (← flowEntries false fuel)
        else if ← accept .flowMappingEnd then return []
        else
          let key ← node false false fuel
          return (key, ← emptyNode) :: (← flowEntries false fuel)

end

/-- Read the directives of a document; `fuel` bounds their number. -/
def directives (versioned : Bool) (known : List (Text × Text)) : (fuel : Nat) → Reading Unit
  | 0 => throw .malformed
  | fuel + 1 => do
      match ← peek with
      | some (.directive (.version major _)) =>
          if versioned || major != 1 then throw .malformed
          else
            advance
            directives true known fuel
      | some (.directive (.handle name start)) =>
          if known.any fun entry => entry.1 == name then throw .malformed
          else
            advance
            directives versioned ((name, start) :: known) fuel
      | some (.directive .reserved) =>
          advance
          directives versioned known fuel
      | _ => modify fun reader => { reader with handles := known ++ standardHandles }

/-- The tokens that may follow the beginning of an empty document. -/
def endsDocument : Option Token → Bool
  | none => true
  | some (.directive _) => true
  | some .documentStart => true
  | some .documentEnd => true
  | some _ => false

/-- The node of the only document, if there is one; `fuel` bounds its size. -/
def document (fuel : Nat) : Reading (Option NodeId) := do
  match ← peek with
  | none => return none
  | some .documentEnd => throw .malformed
  | next =>
      if endsDocument next then
        directives false [] fuel
        expect .documentStart
        if endsDocument (← peek) then return some (← emptyNode)
        else return some (← node true false fuel)
      else return some (← node true false fuel)

/-- Pass over the ends of a document, behind which nothing may follow. -/
def finish : (fuel : Nat) → Reading Unit
  | 0 => throw .malformed
  | fuel + 1 => do
      if ← accept .documentEnd then finish fuel
      else if (← peek).isSome then throw .malformed
      else return ()

end Reader

/-- The nodes of a text that holds at most one document, and the place of its root. -/
def Nodes.read (text : Text) : Except Fault (Option (NodeId × Nodes)) := do
  let (tokens, fault) := tokens text
  let fuel := 6 * tokens.size + 16
  let reading : Reading (Option NodeId) := do
    let found ← Reader.document fuel
    Reader.finish fuel
    return found
  let (found, reader) ← reading.run
    { rest := tokens.toList, fault := fault, handles := Reader.standardHandles }
  return found.map fun root => (root, reader.nodes)

end Splice.Yaml
