import Splice.Proofs.Document.Strays
import Splice.Proofs.Render.DebugText

namespace Splice.Render

open Document (resolve?)

/-!
# What rendering refuses

Rendering comes to an end for every document, plain or drawn, whatever numbers its
references hold.  It is refused exactly when some sequence of the document, at any depth,
has a stray reference, and the fault is that of the first stray in the order in which the
blocks were spliced in.
-/

theorem plain_of_no_stray
    (spacing : Spacing)
    {document : Document}
    (noStray : document.strays = []) :
    document.Resolves ∧ plain spacing document = .ok (collapse spacing document.layout) := by
  have resolves : document.Resolves := by
    rw [Document.resolves_iff, Document.firstFault?_nodes, noStray]
    rfl
  exact ⟨resolves, plain_of_layout spacing resolves rfl⟩

/--
Plain and debug rendering give output unless the document has a stray reference, and else
both give the fault of the first one.  There is one exactly when in some sequence, at any
depth, a reference leaves the sequence or hits an operation that is no block.  Looking a
reference up never reaches beyond the end of its sequence, and what a reference that is
not stray leads to has no stray that was not met before the reference.
-/
theorem renders_or_first_stray
    (spacing : Spacing)
    (tracing : Tracing)
    (registry : Registry)
    (shelf : Shelf)
    (document : Document) :
    (match document.strays with
      | [] =>
          (∃ text, plain spacing document = .ok text) ∧
          ∃ segments, (debug spacing tracing registry shelf document).segments = .ok segments
      | fault :: _ =>
          plain spacing document = .error fault ∧
          (debug spacing tracing registry shelf document).segments = .error fault) ∧
    (document.strays ≠ [] ↔
      ∃ (level : Document) (index : Nat) (offset : Int),
        level.Within document ∧ level[index]? = some (.back offset) ∧
          (offset ≤ 0 ∨ index < offset ∨
            ∀ inner, level[(index - offset).toNat]? ≠ some (.block inner))) ∧
    ∀ {level : Document} {index : Nat} {offset : Int},
      level.Within document → level[index]? = some (.back offset) →
      resolve? level index offset ≠ .error .beyondEnd ∧
      ∀ {inner : Document}, resolve? level index offset = .ok inner →
        ∀ fault ∈ inner.strays, fault ∈ level.straysBefore index := by
  refine ⟨?_, ?_, ?_⟩
  · have first := Document.firstFault?_nodes document
    cases shape : document.strays with
    | nil =>
        obtain ⟨resolves, rendered⟩ := plain_of_no_stray spacing shape
        exact ⟨⟨_, rendered⟩, debug_of_resolves spacing tracing registry shelf resolves⟩
    | cons fault others =>
        rw [shape, List.head?_cons] at first
        refine ⟨?_, debug_of_fault spacing tracing registry shelf first⟩
        rw [plain_eq, first]
  · constructor
    · intro hasStray
      obtain ⟨fault, stray⟩ := List.exists_mem_of_ne_nil _ hasStray
      obtain ⟨level, index, offset, within, reference, misses⟩ :=
        (Document.mem_strays_iff document).mp stray
      have inside := (List.getElem?_eq_some_iff.mp reference).1
      exact ⟨level, index, offset, within, reference,
        (Document.exists_strayAt?_iff inside).mp ⟨fault, misses⟩⟩
    · rintro ⟨level, index, offset, within, reference, lost⟩
      have inside := (List.getElem?_eq_some_iff.mp reference).1
      obtain ⟨fault, misses⟩ := (Document.exists_strayAt?_iff inside).mpr lost
      exact List.ne_nil_of_mem
        ((Document.mem_strays_iff document).mpr ⟨level, index, offset, within, reference, misses⟩)
  · intro level index offset within reference
    have inside := (List.getElem?_eq_some_iff.mp reference).1
    have looked := Document.resolve?_of_strayAt? inside offset
    refine ⟨?_, fun resolved fault => Document.straysBefore_of_resolved resolved⟩
    intro beyond
    cases misses : level.strayAt? index offset with
    | some fault =>
        rw [misses] at looked
        cases looked.symm.trans beyond
    | none =>
        rw [misses] at looked
        obtain ⟨inner, resolved⟩ := looked
        cases resolved.symm.trans beyond

/-- A call whose argument has a stray reference, is used again, and is followed by another stray. -/
def strayCall : Document :=
  [.fixed "f(".toList, .block [.owned "x".toList, .back 1], .back 1, .back 9, .back (-1)]

/--
Rendering `strayCall` is refused at the reference inside the block, before the reference to
the block is followed and before the references that leave the sequence.
-/
theorem plain_strayCall :
    strayCall.strays = [⟨1, 1, some "OwnedText"⟩, ⟨3, 9, none⟩, ⟨4, -1, none⟩] ∧
    plain .standard strayCall = .error ⟨1, 1, some "OwnedText"⟩ ∧
    (∃ inner, resolve? strayCall 2 1 = .ok inner ∧
      ∀ fault ∈ inner.strays, fault ∈ strayCall.straysBefore 2) := by
  have strays : strayCall.strays =
      [⟨1, 1, some "OwnedText"⟩, ⟨3, 9, none⟩, ⟨4, -1, none⟩] := by
    decide +kernel
  have refused := renders_or_first_stray .standard .standard {} {} strayCall
  have resolved : resolve? strayCall 2 1 = .ok [.owned "x".toList, .back 1] := rfl
  have reference : strayCall[2]? = some (.back 1) := rfl
  have met := (refused.2.2 (.self strayCall) reference).2 resolved
  rw [strays] at refused
  exact ⟨strays, refused.1.1, _, resolved, met⟩

end Splice.Render
