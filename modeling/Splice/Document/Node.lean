import Splice.Document.Reference

namespace Splice

/-!
# Resolved documents

Before a document is laid out, every back-reference is replaced by what it
stands for: the resolved block it repeats, or a fault.  A fault stays where the
reference stood, so a walk of the nodes meets the same things in the same order
as a walk of the operations that looks references up as it goes.  Resolving is
structural, because a block is resolved before any reference to it.
-/

/-- An operation whose back-references are replaced by what they stand for. -/
inductive Node where
  | newline
  | fixed (text : Text)
  | owned (text : Text)
  /-- A block where it was spliced in. -/
  | block (nodes : List Node)
  /-- A block used once more. -/
  | again (nodes : List Node)
  | marker (token : Token)
  /-- A back-reference that stands for nothing. -/
  | broken (fault : Malformed)
  deriving Inhabited

namespace Node

/-- The name of the kind of operation that a node comes from. -/
def kindName : Node → String
  | .newline => "NewlineMarker"
  | .fixed _ => "FixedText"
  | .owned _ => "OwnedText"
  | .block _ => "NestedBlock"
  | .again _ => "BackReference"
  | .marker _ => "ProvenanceMarker"
  | .broken _ => "BackReference"

/-- What a back-reference stands for after the nodes `earlier`, the last of which comes first. -/
def ofOffset (earlier : List Node) (offset : Int) : Node :=
  if offset ≤ 0 then .broken ⟨earlier.length, offset, none⟩
  else
    match earlier[offset.toNat - 1]? with
    | none => .broken ⟨earlier.length, offset, none⟩
    | some (.block nodes) => .again nodes
    | some other => .broken ⟨earlier.length, offset, some other.kindName⟩

end Node

mutual

/-- The node of an operation after the nodes `earlier`, the last of which comes first. -/
def Operation.node (earlier : List Node) : Operation → Node
  | .newline => .newline
  | .fixed text => .fixed text
  | .owned text => .owned text
  | .block operations => .block (Document.nodesAfter [] operations)
  | .back offset => Node.ofOffset earlier offset
  | .marker token => .marker token

/-- The nodes of the rest of a sequence after the nodes `earlier`. -/
def Document.nodesAfter (earlier : List Node) : List Operation → List Node
  | [] => []
  | operation :: rest =>
      let node := operation.node earlier
      node :: Document.nodesAfter (node :: earlier) rest

end

/-- The nodes of a document. -/
def Document.nodes (document : Document) : List Node :=
  Document.nodesAfter [] document

end Splice
