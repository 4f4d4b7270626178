import Splice.Document.Node
import Splice.Proofs.Document.Levels

namespace Splice

/-!
# Nodes and references

The nodes of a document are made front to back, each reference from the nodes
before it.  Here they are compared with looking every reference up in the
document itself: a reference that finds a block repeats exactly the nodes of that
block, and any other reference is broken with the fault of the look-up.

The first fault of a row of nodes is what stops a walk; a document whose
references land at every level has none.
-/

namespace Document

/-- The node at an index is made from the operation there and the nodes before it. -/
theorem nodesAfter_getElem?
    (earlier : List Node)
    (operations : List Operation)
    (index : Nat) :
    (nodesAfter earlier operations)[index]? =
      operations[index]?.map fun operation =>
        operation.node ((nodesAfter earlier (operations.take index)).reverse ++ earlier) := by
  induction operations generalizing earlier index with
  | nil => simp [nodesAfter]
  | cons operation rest inductionHypothesis =>
      cases index with
      | zero => simp [nodesAfter]
      | succ index =>
          simp only [nodesAfter, List.getElem?_cons_succ, List.take_succ_cons,
            List.reverse_cons, List.append_assoc, List.singleton_append]
          exact inductionHypothesis (operation.node earlier :: earlier) index

/-- A document's node at an index is that operation read against the nodes before it. -/
theorem nodes_getElem?
    (document : Document)
    (index : Nat) :
    document.nodes[index]? =
      document[index]?.map fun operation =>
        operation.node (nodes (document.take index)).reverse := by
  simpa [nodes] using nodesAfter_getElem? [] document index

theorem length_nodesAfter
    (earlier : List Node)
    (operations : List Operation) :
    (nodesAfter earlier operations).length = operations.length := by
  induction operations generalizing earlier with
  | nil => rfl
  | cons operation rest inductionHypothesis =>
      simp [nodesAfter, inductionHypothesis]

@[simp] theorem length_nodes (document : Document) :
    document.nodes.length = document.length :=
  length_nodesAfter [] document

end Document

/-- An operation and its node go by the same kind name. -/
theorem Operation.kindName_node
    (earlier : List Node)
    (operation : Operation) :
    (operation.node earlier).kindName = operation.kindName := by
  cases operation with
  | back offset =>
      simp only [node, Node.ofOffset]
      split
      · rfl
      · split <;> rfl
  | _ => rfl

/-- Only a block gives a node that is a block. -/
theorem Operation.node_eq_block_iff
    {earlier nodes : List Node}
    {operation : Operation} :
    operation.node earlier = .block nodes ↔
      ∃ inner, operation = .block inner ∧ nodes = Document.nodes inner := by
  constructor
  · intro same
    cases operation with
    | block inner =>
        simp only [node, Node.block.injEq] at same
        exact ⟨inner, rfl, same.symm⟩
    | back offset =>
        simp only [node, Node.ofOffset] at same
        split at same
        · cases same
        · split at same <;> cases same
    | _ => cases same
  · rintro ⟨inner, rfl, rfl⟩
    rfl

namespace Node

/-- An offset that points before the document or at itself is broken, with nothing found. -/
theorem ofOffset_of_outside
    {earlier : List Node}
    {offset : Int}
    (outside : offset ≤ 0 ∨ (earlier.length : Int) < offset) :
    ofOffset earlier offset = .broken ⟨earlier.length, offset, none⟩ := by
  unfold ofOffset
  by_cases below : offset ≤ 0
  · simp only [below, ↓reduceIte]
  · have missing : earlier[offset.toNat - 1]? = none :=
      List.getElem?_eq_none (by omega)
    simp only [below, ↓reduceIte, missing]

/-- An offset at something other than a block is broken, with the kind that was found. -/
theorem ofOffset_of_not_block
    {earlier : List Node}
    {offset : Int}
    {node : Node}
    (positive : 0 < offset)
    (there : earlier[offset.toNat - 1]? = some node)
    (notBlock : ∀ nodes, node ≠ .block nodes) :
    ofOffset earlier offset = .broken ⟨earlier.length, offset, some node.kindName⟩ := by
  have notBelow : ¬ offset ≤ 0 := by omega
  unfold ofOffset
  simp only [notBelow, ↓reduceIte, there]

end Node

namespace Document

variable {document : Document} {index : Nat} {offset : Int}

/-- Resolving outside the document is malformed, with nothing found. -/
theorem resolve?_of_outside
    {position : Int}
    (outside : offset ≤ 0 ∨ position - offset < 0) :
    resolve? document position offset = .error (.malformed ⟨position, offset, none⟩) := by
  unfold resolve?
  simp only [outside, ↓reduceIte]

/-- Resolving at something other than a block is malformed, with the kind that was found. -/
theorem resolve?_of_not_block
    {position : Int}
    {operation : Operation}
    (inside : ¬ (offset ≤ 0 ∨ position - offset < 0))
    (there : document[(position - offset).toNat]? = some operation)
    (notBlock : ∀ inner, operation ≠ .block inner) :
    resolve? document position offset =
      .error (.malformed ⟨position, offset, some operation.kindName⟩) := by
  unfold resolve?
  simp only [inside, ↓reduceIte, there]

theorem nodes_of_block
    {inner : Document}
    (block : document[index]? = some (.block inner)) :
    document.nodes[index]? = some (.block (nodes inner)) := by
  rw [nodes_getElem?, block]
  rfl

/-- The node that an offset counts back to from a position inside a document. -/
theorem earlier_getElem?
    (inside : index < document.length)
    (positive : 0 < offset)
    (within : offset ≤ index) :
    (nodes (document.take index)).reverse[offset.toNat - 1]? =
      (document[(index - offset).toNat]?).map fun operation =>
        operation.node (nodes ((document.take index).take (index - offset).toNat)).reverse := by
  have length : (nodes (document.take index)).length = index := by
    simp only [length_nodes, List.length_take]
    omega
  have position : index - 1 - (offset.toNat - 1) = (index - offset).toNat := by omega
  have before : (index - offset).toNat < index := by omega
  rw [List.getElem?_reverse (by omega), length, position, nodes_getElem?,
    List.getElem?_take_of_lt before]

/-- A reference that finds a block repeats the nodes of that block. -/
theorem nodes_of_resolved
    {inner : Document}
    (reference : document[index]? = some (.back offset))
    (resolved : resolve? document index offset = .ok inner) :
    document.nodes[index]? = some (.again (nodes inner)) := by
  obtain ⟨positive, within, block⟩ := resolve?_eq_ok_iff.mp resolved
  obtain ⟨inside, _⟩ := List.getElem?_eq_some_iff.mp reference
  have target := earlier_getElem? inside positive within
  rw [block] at target
  have outside : ¬ offset ≤ 0 := by omega
  rw [nodes_getElem?, reference]
  simp only [Option.map_some, Operation.node, Node.ofOffset, outside, ↓reduceIte, target]
  rfl

/-- A reference that finds no block is broken, with the fault of the look-up. -/
theorem nodes_of_malformed
    {fault : ReferenceFault}
    (reference : document[index]? = some (.back offset))
    (failed : resolve? document index offset = .error fault) :
    ∃ malformed, fault = .malformed malformed ∧
      document.nodes[index]? = some (.broken malformed) := by
  obtain ⟨inside, _⟩ := List.getElem?_eq_some_iff.mp reference
  have length : (nodes (document.take index)).reverse.length = index := by
    simp only [List.length_reverse, length_nodes, List.length_take]
    omega
  rw [nodes_getElem?, reference, Option.map_some, Operation.node]
  by_cases outside : offset ≤ 0 ∨ (index : Int) - offset < 0
  · rw [resolve?_of_outside outside] at failed
    cases failed
    rw [Node.ofOffset_of_outside (by omega), length]
    exact ⟨_, rfl, rfl⟩
  · have target := earlier_getElem? inside (by omega : 0 < offset) (by omega)
    obtain ⟨operation, there⟩ :
        ∃ operation, document[(index - offset).toNat]? = some operation :=
      ⟨_, List.getElem?_eq_getElem (by omega)⟩
    have notBlock : ∀ inner, operation ≠ .block inner := by
      rintro inner rfl
      rw [resolve?_eq_ok_iff.mpr ⟨by omega, by omega, there⟩] at failed
      cases failed
    rw [resolve?_of_not_block outside there notBlock] at failed
    cases failed
    rw [there, Option.map_some] at target
    have nodeNotBlock :
        ∀ nodes', operation.node
          (nodes ((document.take index).take (index - offset).toNat)).reverse ≠ .block nodes' := by
      intro nodes' same
      obtain ⟨inner, isBlock, _⟩ := Operation.node_eq_block_iff.mp same
      exact notBlock inner isBlock
    rw [Node.ofOffset_of_not_block (by omega) target nodeNotBlock, length,
      Operation.kindName_node]
    exact ⟨_, rfl, rfl⟩

/--
What holds of every node: by kinds of operation, where a reference repeats a block
of the document or is broken.
-/
theorem forall_nodes
    {Q : Node → Prop}
    (newline : Q .newline)
    (fixed : ∀ text, Operation.fixed text ∈ document → Q (.fixed text))
    (owned : ∀ text, Operation.owned text ∈ document → Q (.owned text))
    (block : ∀ inner, Operation.block inner ∈ document → Q (.block (nodes inner)))
    (again : ∀ inner, Operation.block inner ∈ document → Q (.again (nodes inner)))
    (marker : ∀ token, Q (.marker token))
    (broken : ∀ fault, ¬ document.ReferencesLand → Q (.broken fault)) :
    ∀ node ∈ document.nodes, Q node := by
  intro node member
  obtain ⟨index, there⟩ := List.mem_iff_getElem?.mp member
  have made := there
  rw [nodes_getElem?] at made
  obtain ⟨operation, source, same⟩ := Option.map_eq_some_iff.mp made
  have inDocument := List.mem_of_getElem? source
  cases operation with
  | newline =>
      subst same
      exact newline
  | fixed text =>
      subst same
      exact fixed text inDocument
  | owned text =>
      subst same
      exact owned text inDocument
  | block inner =>
      subst same
      exact block inner inDocument
  | marker token =>
      subst same
      exact marker token
  | back offset =>
      cases looked : resolve? document index offset with
      | ok inner =>
          rw [nodes_of_resolved source looked] at there
          cases there
          exact again inner (List.mem_of_getElem? (resolve?_eq_ok_iff.mp looked).2.2)
      | error fault =>
          obtain ⟨malformed, _, brokenThere⟩ := nodes_of_malformed source looked
          rw [brokenThere] at there
          cases there
          refine broken malformed fun land => ?_
          obtain ⟨inner, found⟩ := referencesLand_iff.mp land source
          rw [looked] at found
          cases found

end Document

mutual

/-- The fault that stops a walk inside a node, if any does. -/
def Node.fault? : Node → Option Malformed
  | .block nodes | .again nodes => Node.firstFault? nodes
  | .broken fault => some fault
  | _ => none

/-- The first fault of several nodes. -/
def Node.firstFault? : List Node → Option Malformed
  | [] => none
  | node :: rest => node.fault?.or (Node.firstFault? rest)

end

mutual

/-- Whether no text of a node holds a line feed. -/
def Node.isFeedFree : Node → Bool
  | .fixed text | .owned text => !text.contains '\n'
  | .block nodes | .again nodes => Node.areFeedFree nodes
  | _ => true

/-- Whether no text of several nodes holds a line feed. -/
def Node.areFeedFree : List Node → Bool
  | [] => true
  | node :: rest => node.isFeedFree && Node.areFeedFree rest

end

/-- Nodes are without fault exactly when each of them is. -/
theorem Node.firstFault?_eq_none_iff
    {nodes : List Node} :
    firstFault? nodes = none ↔ ∀ node ∈ nodes, node.fault? = none := by
  induction nodes with
  | nil => simp [firstFault?]
  | cons node rest inductionHypothesis =>
      simp [firstFault?, Option.or_eq_none_iff, inductionHypothesis]

/-- Nodes are free of feeds exactly when each of them is. -/
theorem Node.areFeedFree_iff
    {nodes : List Node} :
    areFeedFree nodes = true ↔ ∀ node ∈ nodes, node.isFeedFree = true := by
  induction nodes with
  | nil => simp [areFeedFree]
  | cons node rest inductionHypothesis =>
      simp [areFeedFree, inductionHypothesis]

namespace Document

theorem block_mem_nodes
    {document inner : Document}
    (member : Operation.block inner ∈ document) :
    Node.block (nodes inner) ∈ document.nodes := by
  obtain ⟨index, there⟩ := List.mem_iff_getElem?.mp member
  exact List.mem_of_getElem? (nodes_of_block there)

/-- A document whose nodes show no fault has no reference that does not resolve. -/
theorem resolves_of_firstFault?
    (document : Document)
    (noFault : Node.firstFault? document.nodes = none) :
    document.Resolves := by
  have noneFaulty := Node.firstFault?_eq_none_iff.mp noFault
  refine .intro (referencesLand_iff.mpr ?_) ?_
  · intro index offset reference
    cases looked : resolve? document index offset with
    | ok inner => exact ⟨inner, rfl⟩
    | error fault =>
        obtain ⟨malformed, _, broken⟩ := nodes_of_malformed reference looked
        cases noneFaulty _ (List.mem_of_getElem? broken)
  · intro inner member
    have smaller := sizeOf_lt_of_block member
    exact resolves_of_firstFault? inner (noneFaulty _ (block_mem_nodes member))
termination_by sizeOf document

/--
The references of a document all stand for blocks exactly when its nodes have no
fault.
-/
theorem resolves_iff
    {document : Document} :
    document.Resolves ↔ Node.firstFault? document.nodes = none := by
  constructor
  · intro resolves
    induction resolves with
    | intro land _ inductionHypothesis =>
        apply Node.firstFault?_eq_none_iff.mpr
        apply forall_nodes
        case block | again => exact inductionHypothesis
        case broken => exact fun _ notLand => (notLand land).elim
        all_goals intros; rfl
  · exact resolves_of_firstFault? document

/-- Nodes free of feeds come of a document free of feeds. -/
theorem feedFree_of_nodes
    (document : Document)
    (free : Node.areFeedFree document.nodes = true) :
    document.FeedFree := by
  have eachFree := Node.areFeedFree_iff.mp free
  refine .intro ?_ ?_
  · intro operation text member writes
    obtain ⟨index, there⟩ := List.mem_iff_getElem?.mp member
    have made := nodes_getElem? document index
    rw [there, Option.map_some] at made
    have nodeFree := eachFree _ (List.mem_of_getElem? made)
    cases operation with
    | fixed found | owned found =>
        cases writes
        simpa [Operation.node, Node.isFeedFree] using nodeFree
    | _ => cases writes
  · intro inner member
    have smaller := sizeOf_lt_of_block member
    exact feedFree_of_nodes inner (eachFree _ (block_mem_nodes member))
termination_by sizeOf document

/--
The texts of a document are free of line feeds exactly when those of its nodes are.
-/
theorem feedFree_iff
    {document : Document} :
    document.FeedFree ↔ Node.areFeedFree document.nodes = true := by
  constructor
  · intro free
    induction free with
    | intro textsFree _ inductionHypothesis =>
        apply Node.areFeedFree_iff.mpr
        apply forall_nodes
        case fixed | owned =>
          intro text member
          simpa [Node.isFeedFree] using textsFree member rfl
        case block | again => exact inductionHypothesis
        all_goals intros; rfl
  · exact feedFree_of_nodes document

instance (document : Document) : Decidable document.Resolves :=
  decidable_of_iff _ resolves_iff.symm

instance (document : Document) : Decidable document.FeedFree :=
  decidable_of_iff _ feedFree_iff.symm

end Document

end Splice
