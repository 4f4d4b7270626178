import Splice.Proofs.Document.Nodes

namespace Splice

/-!
# Stray references

A reference is stray when it counts back to no block of the sequence that it stands in.
The strays of a document are listed by going through it once, into its blocks but never
along its references.  A walk does follow references, yet it meets no fault that the list
does not have, and the first one of the list first: what a reference leads to stands
before it in the same sequence, so its strays were met there already.
-/

namespace Document

/--
The fault of a reference at a position, if it is stray: it leaves the sequence, or it hits
an operation that is no block.
-/
def strayAt? (document : Document) (index : Nat) (offset : Int) : Option Malformed :=
  if offset ≤ 0 ∨ index < offset then some ⟨index, offset, none⟩
  else
    match document[(index - offset).toNat]? with
    | some (.block _) => none
    | some other => some ⟨index, offset, some other.kindName⟩
    | none => none

end Document

mutual

/-- The strays of an operation that stands at a position of the sequence `whole`. -/
def Operation.strays (whole : Document) (index : Nat) : Operation → List Malformed
  | .back offset => (whole.strayAt? index offset).toList
  | .block inner => Document.straysFrom inner 0 inner
  | _ => []

/-- The strays of the operations that stand in the sequence `whole` from a position on. -/
def Document.straysFrom (whole : Document) (index : Nat) : List Operation → List Malformed
  | [] => []
  | operation :: rest =>
      operation.strays whole index ++ Document.straysFrom whole (index + 1) rest

end

namespace Document

/-- The strays of a document, each block where it was spliced in. -/
def strays (document : Document) : List Malformed :=
  document.straysFrom 0 document

/-- The strays among the operations before a position. -/
def straysBefore (document : Document) (index : Nat) : List Malformed :=
  document.straysFrom 0 (document.take index)

/-- The sequences of a document: its own, and those of its blocks at any depth. -/
inductive Within : Document → Document → Prop where
  | self (document : Document) : Within document document
  | nested {level inner document : Document}
      (member : Operation.block inner ∈ document)
      (within : Within level inner) :
      Within level document

section

variable {document : Document} {index : Nat} {offset : Int}

/-- Looking a reference up where it stands finds a block, unless the reference is stray. -/
theorem resolve?_of_strayAt?
    (inside : index < document.length)
    (offset : Int) :
    match document.strayAt? index offset with
    | some fault => resolve? document index offset = .error (.malformed fault)
    | none => ∃ inner, resolve? document index offset = .ok inner := by
  by_cases outside : offset ≤ 0 ∨ index < offset
  · simp only [strayAt?, outside, ↓reduceIte]
    exact resolve?_of_outside (by omega)
  · have within : ¬ (offset ≤ 0 ∨ (index : Int) - offset < 0) := by omega
    have target : (index - offset).toNat < document.length := by omega
    have there := List.getElem?_eq_getElem target
    simp only [strayAt?, outside, ↓reduceIte]
    cases hit : document[(index - offset).toNat] with
    | block inner =>
        simp only [there, hit]
        exact ⟨inner, resolve?_eq_ok_iff.mpr ⟨by omega, by omega, there.trans (by rw [hit])⟩⟩
    | _ =>
        simp only [there, hit]
        exact resolve?_of_not_block within (there.trans (by rw [hit])) (by simp)

/-- A reference that stands in a sequence is stray exactly when no block lies where it points. -/
theorem exists_strayAt?_iff
    (inside : index < document.length) :
    (∃ fault, document.strayAt? index offset = some fault) ↔
      offset ≤ 0 ∨ index < offset ∨
        ∀ inner, document[(index - offset).toNat]? ≠ some (.block inner) := by
  have looked := resolve?_of_strayAt? inside offset
  cases stray : document.strayAt? index offset with
  | none =>
      rw [stray] at looked
      obtain ⟨inner, resolved⟩ := looked
      obtain ⟨positive, within, block⟩ := resolve?_eq_ok_iff.mp resolved
      refine iff_of_false (by simp) ?_
      rintro (below | above | misses)
      · omega
      · omega
      · exact misses inner block
  | some fault =>
      rw [stray] at looked
      refine iff_of_true ⟨fault, rfl⟩ ?_
      by_cases outside : offset ≤ 0 ∨ index < offset
      · exact or_assoc.mp (.inl outside)
      · refine .inr (.inr fun inner block => ?_)
        have resolved : resolve? document index offset = .ok inner :=
          resolve?_eq_ok_iff.mpr ⟨by omega, by omega, block⟩
        cases looked.symm.trans resolved

end

theorem mem_straysFrom_iff
    {whole : Document}
    {fault : Malformed}
    {start : Nat}
    {operations : List Operation} :
    fault ∈ whole.straysFrom start operations ↔
      ∃ (place : Nat) (operation : Operation),
        operations[place]? = some operation ∧ fault ∈ operation.strays whole (start + place) := by
  induction operations generalizing start with
  | nil => simp [straysFrom]
  | cons first rest inductionHypothesis =>
      rw [straysFrom, List.mem_append, inductionHypothesis]
      constructor
      · rintro (here | ⟨place, operation, there, stray⟩)
        · exact ⟨0, first, rfl, here⟩
        · exact ⟨place + 1, operation, there, by rwa [Nat.add_right_comm] at stray⟩
      · rintro ⟨place, operation, there, stray⟩
        cases place with
        | zero =>
            cases there
            exact .inl stray
        | succ place =>
            exact .inr ⟨place, operation, there, by rwa [Nat.add_right_comm]⟩

/-- What a reference leads to has no stray that was not met before the reference. -/
theorem straysBefore_of_resolved
    {document inner : Document}
    {index : Nat}
    {offset : Int}
    (resolved : resolve? document index offset = .ok inner)
    {fault : Malformed}
    (stray : fault ∈ inner.strays) :
    fault ∈ document.straysBefore index := by
  obtain ⟨positive, within, block⟩ := resolve?_eq_ok_iff.mp resolved
  refine mem_straysFrom_iff.mpr ⟨(index - offset).toNat, .block inner, ?_, stray⟩
  rw [List.getElem?_take_of_lt (by omega)]
  exact block

/-- The strays of a document are those of all its sequences. -/
theorem mem_strays_iff
    (document : Document)
    {fault : Malformed} :
    fault ∈ document.strays ↔
      ∃ (level : Document) (index : Nat) (offset : Int),
        level.Within document ∧ level[index]? = some (.back offset) ∧
          level.strayAt? index offset = some fault := by
  constructor
  · intro stray
    obtain ⟨index, operation, there, here⟩ := mem_straysFrom_iff.mp stray
    cases operation with
    | back offset =>
        exact ⟨document, index, offset, .self document, there,
          by simpa [Operation.strays] using here⟩
    | block inner =>
        have member := List.mem_of_getElem? there
        have smaller := sizeOf_lt_of_block member
        obtain ⟨level, place, offset, within, reference, misses⟩ := (mem_strays_iff inner).mp here
        exact ⟨level, place, offset, .nested member within, reference, misses⟩
    | _ => cases here
  · rintro ⟨level, index, offset, within, reference, misses⟩
    induction within with
    | self =>
        refine mem_straysFrom_iff.mpr ⟨index, .back offset, reference, ?_⟩
        simp [Operation.strays, misses]
    | nested member _ inductionHypothesis =>
        obtain ⟨place, there⟩ := List.mem_iff_getElem?.mp member
        exact mem_straysFrom_iff.mpr ⟨place, _, there, inductionHypothesis⟩
termination_by sizeOf document

/--
The first fault of the nodes from a position on is the first stray from there on, if no
node before the position has a fault.
-/
theorem firstFault?_drop
    {document : Document}
    (nested : ∀ inner : Document, Operation.block inner ∈ document →
      Node.firstFault? inner.nodes = inner.strays.head?)
    {rest : List Operation}
    (index : Nat)
    (here : document.drop index = rest)
    (sound : ∀ place node, place < index → document.nodes[place]? = some node →
      node.fault? = none) :
    Node.firstFault? (document.nodes.drop index) = (document.straysFrom index rest).head? := by
  induction rest generalizing index with
  | nil =>
      rw [List.drop_eq_nil_of_le (by simpa using List.drop_eq_nil_iff.mp here)]
      rfl
  | cons operation rest inductionHypothesis =>
      have there : document[index]? = some operation := by
        rw [← List.head?_drop, here]
        rfl
      have later : document.drop (index + 1) = rest := by
        rw [← List.drop_drop, here]
        rfl
      have inside : index < document.length := (List.getElem?_eq_some_iff.mp there).1
      have member := List.mem_of_getElem? there
      have step {node : Node}
          (made : document.nodes[index]? = some node)
          (same : node.fault? = (operation.strays document index).head?) :
          Node.firstFault? (document.nodes.drop index) =
            (document.straysFrom index (operation :: rest)).head? := by
        rw [drop_of_getElem? made, Node.firstFault?, straysFrom, List.head?_append, ← same]
        cases fault : node.fault? with
        | some found => rfl
        | none =>
            refine inductionHypothesis _ later ?_
            intro place other before madeOther
            by_cases isHere : place = index
            · cases madeOther.symm.trans (isHere ▸ made)
              exact fault
            · exact sound place other (by omega) madeOther
      have made := nodes_getElem? document index
      rw [there, Option.map_some] at made
      cases operation with
      | block inner => exact step made (nested inner member)
      | back offset =>
          have looked := resolve?_of_strayAt? inside offset
          cases stray : document.strayAt? index offset with
          | some fault =>
              rw [stray] at looked
              obtain ⟨malformed, same, broken⟩ := nodes_of_malformed there looked
              cases same
              exact step broken (by simp [Operation.strays, stray, Node.fault?])
          | none =>
              rw [stray] at looked
              obtain ⟨inner, resolved⟩ := looked
              obtain ⟨positive, within, block⟩ := resolve?_eq_ok_iff.mp resolved
              have noFault : Node.firstFault? inner.nodes = none :=
                sound _ _ (by omega) (nodes_of_block block)
              exact step (nodes_of_resolved there resolved)
                (by simp [Operation.strays, stray, Node.fault?, noFault])
      | _ => exact step made rfl

/-- The first fault of the nodes of a document is its first stray. -/
theorem firstFault?_nodes
    (document : Document) :
    Node.firstFault? document.nodes = document.strays.head? := by
  refine firstFault?_drop ?_ 0 rfl fun _ _ before => absurd before (Nat.not_lt_zero _)
  intro inner member
  have smaller := sizeOf_lt_of_block member
  exact firstFault?_nodes inner
termination_by sizeOf document

end Document

end Splice
