import Splice.Document.Operation

namespace Splice

/-!
# Back-references

A back-reference at position `index` of a sequence with offset `offset` stands
for the operation at `index - offset`, which has to lie before it and to be a
nested block.  `resolve?` looks the block up; `resolve?_eq_ok_iff` says when it
finds one.
-/

/-- A back-reference that does not stand for a block, and what it hit instead, if anything. -/
structure Malformed where
  index : Int
  offset : Int
  found : Option String
  deriving DecidableEq

/-- What is said about a malformed back-reference. -/
def Malformed.message (fault : Malformed) : String :=
  let start := s!"Back-reference at operation {fault.index} with offset {fault.offset}"
  match fault.found with
  | none => start ++ " does not point backward into its sequence"
  | some kind => start ++ s!" points at {kind}, expected a nested block"

namespace Document

/-- Why looking up a back-reference gives no block. -/
inductive ReferenceFault where
  | malformed (fault : Malformed)
  | beyondEnd
  deriving DecidableEq

/-- The block that an offset at a position stands for. -/
def resolve? (document : Document) (index offset : Int) : Except ReferenceFault Document :=
  if offset ≤ 0 ∨ index - offset < 0 then
    .error (.malformed ⟨index, offset, none⟩)
  else
    match document[(index - offset).toNat]? with
    | none => .error .beyondEnd
    | some (.block operations) => .ok operations
    | some other => .error (.malformed ⟨index, offset, some other.kindName⟩)

/-- A block is found exactly when a block lies a positive distance before the position. -/
theorem resolve?_eq_ok_iff
    {document operations : Document}
    {index offset : Int} :
    resolve? document index offset = .ok operations ↔
      0 < offset ∧ offset ≤ index ∧
        document[(index - offset).toNat]? = some (.block operations) := by
  unfold resolve?
  by_cases outside : offset ≤ 0 ∨ index - offset < 0
  · simp only [outside, ↓reduceIte, reduceCtorEq, false_iff, not_and]
    omega
  · simp only [outside, ↓reduceIte]
    have positive : 0 < offset := by omega
    have within : offset ≤ index := by omega
    split <;> simp_all

end Document

end Splice
