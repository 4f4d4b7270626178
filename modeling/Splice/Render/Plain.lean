import Splice.Render.Walk

namespace Splice.Render

/-!
# Plain rendering

The text of a document and nothing else: markers are passed over.  A renderer may
be used again; whatever an earlier use left on its desk does not show.
-/

/-- Plain rendering begins a line and breaks lines with one piece, even if it is empty. -/
instance : Hooks Unit where
  padding column := [⟨List.replicate column ' ', none⟩]
  feeds count := [⟨List.replicate count '\n', none⟩]
  segmentsText_padding column := by simp [segmentsText]
  segmentsText_feeds count := by simp [segmentsText]

/-- The pen of plain rendering draws everything alike. -/
def plainPen : Pen Unit Unit where
  ink := id
  enter := id
  leave := fun outside _ => outside
  mark := fun _ hand => hand

/-- A plain renderer with what its last use left behind. -/
structure PlainRenderer where
  spacing : Spacing
  desk : Desk Unit Unit := ⟨Sheet.start, ()⟩

namespace PlainRenderer

/-- Render a document, and keep what the walk left. -/
def render
    (renderer : PlainRenderer)
    (document : Document) :
    Except Malformed Text × PlainRenderer :=
  let desk := { renderer.desk with sheet := renderer.desk.sheet.restart }
  match walkDocument plainPen renderer.spacing desk document with
  | .ok done => (.ok (segmentsText done.sheet.output), { renderer with desk := done })
  | .error (fault, left) => (.error fault, { renderer with desk := left })

end PlainRenderer

/-- The plain text of a document. -/
def plain (spacing : Spacing) (document : Document) : Except Malformed Text :=
  (PlainRenderer.render { spacing := spacing } document).1

/-- A renderer gives the same text whatever was rendered with it before. -/
theorem PlainRenderer.render_eq_plain
    (renderer : PlainRenderer)
    (document : Document) :
    (renderer.render document).1 = plain renderer.spacing document := by
  unfold plain render
  simp only [Sheet.restart_eq_start]

end Splice.Render
