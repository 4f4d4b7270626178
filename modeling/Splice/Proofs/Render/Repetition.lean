import Splice.Proofs.Document.Expansion
import Splice.Proofs.Render.PlainLayout
import Splice.Render.Debug

namespace Splice.Render

/-!
# A block used again is rendered again

A walk keeps nothing of the blocks that it has left: a block that is used once more is
walked from where the walk stands now, with the column, the ink and the tokens of that
moment.  So a document and its expansion, in which every use has a block of its own, are
rendered alike by every pen.
-/

variable {σ μ : Type} [Hooks μ]

mutual

/-- A walk does not tell a block used once more from one used for the first time. -/
theorem walk_unshared
    (pen : Pen σ μ) (spacing : Spacing) (base : Nat) (desk : Desk σ μ) :
    ∀ node : Node,
      walk pen spacing base desk node.unshared = walk pen spacing base desk node
  | .newline | .fixed _ | .owned _ | .marker _ | .broken _ => rfl
  | .block nodes | .again nodes => by
      have inside := walkAll_unshared pen spacing desk.sheet.column
        { desk with hand := pen.enter desk.hand } nodes
      simp only [Node.unshared, walk, inside]

theorem walkAll_unshared
    (pen : Pen σ μ) (spacing : Spacing) (base : Nat) (desk : Desk σ μ) :
    ∀ nodes : List Node,
      walkAll pen spacing base desk (Node.allUnshared nodes) =
        walkAll pen spacing base desk nodes
  | [] => rfl
  | node :: rest => by
      have first := walk_unshared pen spacing base desk node
      simp only [Node.allUnshared, walkAll, first, bind, Except.bind]
      cases walk pen spacing base desk node with
      | error stopped => rfl
      | ok next => exact walkAll_unshared pen spacing base next rest

end

theorem walkDocument_expand
    (pen : Pen σ μ)
    (spacing : Spacing)
    (desk : Desk σ μ)
    {document : Document}
    (resolves : document.Resolves) :
    walkDocument pen spacing desk document.expand =
      walkDocument pen spacing desk document := by
  unfold walkDocument
  rw [Document.nodes_expand resolves, walkAll_unshared]

theorem PlainRenderer.render_expand
    (renderer : PlainRenderer)
    {document : Document}
    (resolves : document.Resolves) :
    renderer.render document.expand = renderer.render document := by
  simp only [render, walkDocument_expand _ _ _ resolves]

theorem DebugRenderer.render_expand
    (renderer : DebugRenderer)
    (registry : Registry)
    (shelf : Shelf)
    {document : Document}
    (resolves : document.Resolves) :
    renderer.render registry shelf document.expand =
      renderer.render registry shelf document := by
  simp only [render, walkDocument_expand _ _ _ resolves]

/--
References are transparent.  A document that renders can be expanded until no level of it
holds a reference, and this shows nowhere: the text stays the same under all spacing
rules, and debug rendering gives the same segments in the same inks, reports the same and
leaves the same registry and shelf, whichever registry and shelf it began with.
-/
theorem rendered_expand
    {spacing : Spacing}
    {document : Document}
    {text : Text}
    (renders : plain spacing document = .ok text) :
    document.expand.EveryLevel Document.ReferenceFree ∧
    (∀ rules, plain rules document.expand = plain rules document) ∧
    ∀ rules tracing registry shelf,
      debug rules tracing registry shelf document.expand =
        debug rules tracing registry shelf document := by
  have resolves := resolves_of_plain renders
  refine ⟨Document.referenceFree_expand resolves, ?_, ?_⟩
  · intro rules
    exact congrArg Prod.fst (PlainRenderer.render_expand { spacing := rules } resolves)
  · intro rules tracing registry shelf
    exact congrArg Prod.fst
      (DebugRenderer.render_expand { spacing := rules, tracing := tracing } registry shelf
        resolves)

/-- A block with a reference inside that is used again behind another block. -/
def repeatedCall : Document :=
  [.marker ⟨1, "a.py".toList, 3, 1⟩, .fixed "f(".toList,
    .block [.marker ⟨2, "b.py".toList, 8, 5⟩, .fixed "x [".toList, .newline,
      .block [.owned "y".toList], .fixed ", ".toList, .back 2, .newline, .fixed "]".toList],
    .fixed ") + ".toList, .block [.owned "g ".toList], .back 3, .newline]

/-- Without its references `repeatedCall` renders as before, also with a colour in use. -/
theorem rendered_repeatedCall :
    plain .standard repeatedCall =
      .ok "f(x [\n  y, y\n  ]) + g x [\n         y, y\n         ]\n".toList ∧
    repeatedCall.expand.EveryLevel Document.ReferenceFree ∧
    plain .standard repeatedCall.expand =
      .ok "f(x [\n  y, y\n  ]) + g x [\n         y, y\n         ]\n".toList ∧
    debug .standard .standard { nextColour := 1, slots := [(2, 0)] } {} repeatedCall.expand =
      debug .standard .standard { nextColour := 1, slots := [(2, 0)] } {} repeatedCall := by
  have renders :
      plain .standard repeatedCall =
        .ok "f(x [\n  y, y\n  ]) + g x [\n         y, y\n         ]\n".toList :=
    plain_of_layAll (by decide +kernel) (by decide +kernel)
  rcases rendered_expand renders with ⟨noReference, sameText, sameSegments⟩
  refine ⟨renders, noReference, ?_, sameSegments .standard .standard _ _⟩
  rw [sameText .standard]
  exact renders

end Splice.Render
