import Splice.Document.Node
import Splice.Render.Sheet

namespace Splice.Render

/-!
# Walking a document

A walk takes the nodes of a document in order.  Text goes to the line under
construction, a line break finishes it, and a block is walked with the column at
which it was entered as the column at which its own new lines begin.  What text
is drawn with depends on the pen, which sees every block that is entered or left
and every marker.  A malformed reference stops the walk where it stands, and
what was done up to there remains.

Blocks may be nested as deeply as memory allows: the depth at which an interpreter
gives up a recursion is its own setting and no part of the walk.
-/

/-- How drawing reacts to the structure of a document. -/
structure Pen (σ μ : Type) where
  /-- What text is drawn with now. -/
  ink : σ → μ
  /-- A block is entered. -/
  enter : σ → σ
  /-- A block is left: the state outside, and the state at its end. -/
  leave : (outside inside : σ) → σ
  /-- A marker is met. -/
  mark : Token → σ → σ

/-- The sheet and the state of the pen. -/
structure Desk (σ μ : Type) where
  sheet : Sheet μ
  hand : σ

/-- The fault that stopped a walk, and the desk at that point. -/
abbrev Stopped (σ μ : Type) := Malformed × Desk σ μ

variable {σ μ : Type} [Hooks μ]

mutual

/-- Walk one node whose new lines begin at `base`. -/
def walk (pen : Pen σ μ) (spacing : Spacing) (base : Nat) (desk : Desk σ μ) :
    Node → Except (Stopped σ μ) (Desk σ μ)
  | .newline => .ok { desk with sheet := desk.sheet.breakLine spacing base }
  | .fixed text => .ok { desk with sheet := desk.sheet.write text (pen.ink desk.hand) }
  | .owned text => .ok { desk with sheet := desk.sheet.write text (pen.ink desk.hand) }
  | .block nodes | .again nodes => do
      let entered := { desk with hand := pen.enter desk.hand }
      let inside ← walkAll pen spacing desk.sheet.column entered nodes
      return { inside with hand := pen.leave desk.hand inside.hand }
  | .marker token => .ok { desk with hand := pen.mark token desk.hand }
  | .broken fault => .error (fault, desk)

/-- Walk several nodes whose new lines begin at `base`. -/
def walkAll (pen : Pen σ μ) (spacing : Spacing) (base : Nat) (desk : Desk σ μ) :
    List Node → Except (Stopped σ μ) (Desk σ μ)
  | [] => .ok desk
  | node :: rest => do
      let next ← walk pen spacing base desk node
      walkAll pen spacing base next rest

end

/-- Walk a whole document and finish its last line. -/
def walkDocument
    (pen : Pen σ μ)
    (spacing : Spacing)
    (desk : Desk σ μ)
    (document : Document) :
    Except (Stopped σ μ) (Desk σ μ) := do
  let walked ← walkAll pen spacing 0 desk document.nodes
  return { walked with sheet := walked.sheet.finish spacing }

end Splice.Render
