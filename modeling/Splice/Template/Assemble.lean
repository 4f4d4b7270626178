import Splice.Document.Operation
import Splice.Template.Piece

namespace Splice.Template

/-!
# Assembling a document from pieces

Literals become text operations and the first use of a name becomes a block that
holds the document bound to it.  A later use of the name becomes a back-reference,
whose offset is the distance to that block.
-/

/-- Documents by name. -/
abbrev Binding := List (Text × Document)

/-- Positions of blocks by the name whose document they hold. -/
abbrev Placed := List (Text × Nat)

/--
The operations of some pieces, the first of which stands at position `index`;
`placed` says where the names used before have their blocks.  A name without a
document is the error.
-/
def assemble
    (literal : Text → Operation)
    (binding : Binding) :
    (index : Nat) → Placed → List Piece → Except Text Document
  | _, _, [] => .ok []
  | index, placed, .newline :: rest => do
      let others ← assemble literal binding (index + 1) placed rest
      return .newline :: others
  | index, placed, .part (.literal text) :: rest => do
      let others ← assemble literal binding (index + 1) placed rest
      return literal text :: others
  | index, placed, .part (.placeholder name) :: rest =>
      match placed.lookup name with
      | some position => do
          let others ← assemble literal binding (index + 1) placed rest
          return .back ((index : Int) - position) :: others
      | none =>
          match binding.lookup name with
          | none => .error name
          | some document => do
              let others ← assemble literal binding (index + 1) ((name, index) :: placed) rest
              return .block document :: others

/-- The operations of a text in which a dollar sign means nothing special. -/
def assembleLiterals (literal : Text → Operation) (text : Text) : Document :=
  (pieces false text).map fun
    | .newline => .newline
    | .part cut => literal cut.source

end Splice.Template
