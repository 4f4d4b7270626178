import Splice.Proofs.Render.Layout

namespace Splice

/-!
# Documents without references

Instead of a reference a document can hold the block that the reference stands for, and
so can every document nested in it.  An operation takes the place of another one, so a
reference that is still to be replaced counts back to the same place as before.

For the nodes of a document this means only that a block used once more becomes a block
that is used for the first time.
-/

mutual

/-- A node in which a block used once more is one used for the first time. -/
def Node.unshared : Node → Node
  | .block nodes | .again nodes => .block (Node.allUnshared nodes)
  | node => node

def Node.allUnshared : List Node → List Node
  | [] => []
  | node :: rest => node.unshared :: Node.allUnshared rest

end

theorem Node.allUnshared_eq_map
    (nodes : List Node) :
    Node.allUnshared nodes = nodes.map Node.unshared := by
  induction nodes with
  | nil => rfl
  | cons node rest inductionHypothesis =>
      rw [allUnshared, inductionHypothesis, List.map_cons]

namespace Document

/--
A document in which each reference is replaced, at every level, by the block that it
finds.
-/
def expand (document : Document) : Document :=
  List.ofFn fun index : Fin document.length =>
    match _ : document.spliced? index (document.get index) with
    | some inner => .block (expand inner)
    | none => document.get index
termination_by sizeOf document
decreasing_by
  exact sizeOf_lt_of_block (block_mem_of_spliced (List.get_mem document index) ‹_›)

theorem expand_getElem?
    (document : Document)
    (index : Nat) :
    document.expand[index]? =
      document[index]?.map fun operation =>
        match document.spliced? index operation with
        | some inner => .block inner.expand
        | none => operation := by
  rw [expand, List.getElem?_ofFn]
  by_cases inside : index < document.length
  · simp only [inside, ↓reduceDIte, List.getElem?_eq_getElem, Option.map_some]
    split <;> simp_all
  · simp [inside]

/-- No operation of one sequence is a reference. -/
def ReferenceFree (document : Document) : Prop :=
  ∀ offset, Operation.back offset ∉ document

section

variable {document : Document} {index : Nat} {operation : Operation}

/--
Where the references of a sequence land, each operation of the expanded document is
the expansion of what was spliced in there, or the same operation and no reference.
-/
theorem source_of_expand
    (land : document.ReferencesLand)
    (there : document.expand[index]? = some operation) :
    (∃ before inner,
      document[index]? = some before ∧ document.spliced? index before = some inner ∧
      operation = .block inner.expand) ∨
    (document[index]? = some operation ∧
      (∀ inner, operation ≠ .block inner) ∧ ∀ offset, operation ≠ .back offset) := by
  rw [expand_getElem?] at there
  rcases Option.map_eq_some_iff.mp there with ⟨before, source, same⟩
  cases spliced : document.spliced? index before with
  | some inner =>
      rw [spliced] at same
      exact .inl ⟨before, inner, source, spliced, same.symm⟩
  | none =>
      rw [spliced] at same
      have unchanged : before = operation := same
      subst unchanged
      refine .inr ⟨source, ?_, ?_⟩
      · rintro inner rfl
        cases spliced
      · rintro offset rfl
        rcases referencesLand_iff.mp land source with ⟨inner, found⟩
        rw [spliced?, found] at spliced
        cases spliced

theorem referenceFree_expand
    (resolves : document.Resolves) :
    document.expand.EveryLevel ReferenceFree := by
  induction resolves with
  | @intro document land _ inductionHypothesis =>
      refine .intro ?_ ?_
      · intro offset member
        rcases List.mem_iff_getElem?.mp member with ⟨index, there⟩
        rcases source_of_expand land there with ⟨_, _, _, _, same⟩ | ⟨_, _, notBack⟩
        · cases same
        · exact notBack offset rfl
      · intro inner member
        rcases List.mem_iff_getElem?.mp member with ⟨index, there⟩
        rcases source_of_expand land there with
          ⟨before, nested, source, spliced, same⟩ | ⟨_, notBlock, _⟩
        · cases same
          have nestedMember := block_mem_of_spliced (List.mem_of_getElem? source) spliced
          exact inductionHypothesis nested nestedMember
        · exact (notBlock inner rfl).elim

/-- The nodes of an expanded document are those of the document, none used once more. -/
theorem nodes_expand
    (resolves : document.Resolves) :
    document.expand.nodes = Node.allUnshared document.nodes := by
  induction resolves with
  | @intro document land _ inductionHypothesis =>
      rw [Node.allUnshared_eq_map]
      apply List.ext_getElem?
      intro index
      rw [nodes_getElem?, List.getElem?_map]
      cases there : document.expand[index]? with
      | none =>
          have outside : document[index]? = none := by
            simpa [expand_getElem?] using there
          rw [nodes_getElem?, outside]
          rfl
      | some operation =>
          rcases source_of_expand land there with
            ⟨before, inner, source, spliced, rfl⟩ | ⟨source, notBlock, notBack⟩
          · have member := block_mem_of_spliced (List.mem_of_getElem? source) spliced
            have innerNodes := inductionHypothesis inner member
            rcases nodes_of_spliced source spliced with block | again
            · rw [block]
              exact congrArg (fun nodes => some (Node.block nodes)) innerNodes
            · rw [again]
              exact congrArg (fun nodes => some (Node.block nodes)) innerNodes
          · rw [nodes_getElem?, source]
            cases operation with
            | block inner => exact (notBlock inner rfl).elim
            | back offset => exact (notBack offset rfl).elim
            | _ => rfl

end

end Document

end Splice
