import Splice.Provenance.Registry
import Splice.Record.Note
import Splice.Render.Walk
import Splice.Settings.Tracing
import Splice.Style.Ink
import Splice.Style.Palette

namespace Splice.Render

/-!
# Debug rendering

The same text as plain rendering, drawn so that it shows where each stretch
comes from, with a legend behind it.  A marker switches to the ink of its token;
entering a block adds the boundary emphasis to whatever ink is in use, and
leaving it restores the ink from before.  Inside a block a marker keeps the
emphasis.  The legend lists every token that was met, once and in that order,
each in its own ink without emphasis.
-/

/-- A new line that begins at a column: padding without an ink, if there is any. -/
def paddedLine {μ : Type} (column : Nat) : List (Segment μ) :=
  if column = 0 then [] else [⟨List.replicate column ' ', none⟩]

/-- Some line breaks without an ink, if there are any. -/
def breaks {μ : Type} (count : Nat) : List (Segment μ) :=
  if count = 0 then [] else [⟨List.replicate count '\n', none⟩]

/-- Debug rendering writes no segment for nothing. -/
instance : Hooks Ink where
  padding := paddedLine
  feeds := breaks
  segmentsText_padding column := by
    unfold paddedLine segmentsText
    by_cases atMargin : column = 0 <;> simp [atMargin]
  segmentsText_feeds count := by
    unfold breaks segmentsText
    by_cases none : count = 0 <;> simp [none]

@[simp] theorem padding_eq_paddedLine (column : Nat) :
    (Hooks.padding column : List (Segment Ink)) = paddedLine column :=
  rfl

@[simp] theorem feeds_eq_breaks (count : Nat) :
    (Hooks.feeds count : List (Segment Ink)) = breaks count :=
  rfl

/-- What debug rendering draws with: the state that one document needs and the state that lasts. -/
structure Hand where
  /-- The ink in use. -/
  ink : Ink
  /-- How many blocks are open. -/
  depth : Nat
  /-- The tokens met, with their inks. -/
  seen : List (Token × Ink)
  registry : Registry
  shelf : Shelf
  notes : List Note

namespace Hand

/-- A hand that has not drawn anything. -/
def start (registry : Registry) (shelf : Shelf) : Hand :=
  ⟨Ink.null, 0, [], registry, shelf, []⟩

/-- Begin a document, whatever an earlier one left behind; the registry and the shelf last. -/
def restart (hand : Hand) (registry : Registry) (shelf : Shelf) : Hand :=
  { hand with
    ink := Ink.null, depth := 0, seen := [], registry := registry, shelf := shelf, notes := [] }

/-- The ink of the boundary emphasis. -/
def boundary (tracing : Tracing) (hand : Hand) : Ink × Hand :=
  match hand.shelf.define tracing.definition with
  | (.ok ink, shelf) => (ink, { hand with shelf := shelf })
  | (.error _, shelf) => (⟨0, tracing.boundary⟩, { hand with shelf := shelf })

/-- An ink with the boundary emphasis over it. -/
def emphasise (tracing : Tracing) (ink : Ink) (hand : Hand) : Ink × Hand :=
  let (upper, hand) := hand.boundary tracing
  let (mixed, shelf) := hand.shelf.mix ink upper
  (mixed, { hand with shelf := shelf })

/-- Enter a block. -/
def enter (tracing : Tracing) (hand : Hand) : Hand :=
  let (ink, hand) := hand.emphasise tracing hand.ink
  { hand with ink := ink, depth := hand.depth + 1 }

/-- Leave a block: what lasts is kept, and the ink and depth are those from outside. -/
def leave (outside inside : Hand) : Hand :=
  { inside with ink := outside.ink, depth := outside.depth }

/-- The ink of a token that was met before. -/
def seenInk? (token : Token) (hand : Hand) : Option Ink :=
  (hand.seen.find? fun entry => entry.1.same token).map Prod.snd

/-- Meet a token for the first time: it gets its colour and its ink. -/
def meet (token : Token) (hand : Hand) : Ink × Hand :=
  let notes := Channel.provenance.notes (hand.registry.notes token)
  let (ink, shelf) := hand.shelf.fresh (Palette.style (hand.registry.colourOf token))
  (ink, { hand with
    registry := hand.registry.colour token
    shelf := shelf
    notes := hand.notes ++ notes
    seen := hand.seen ++ [(token, ink)] })

/-- The ink of a token, which is met now if it was not before. -/
def inkOf (token : Token) (hand : Hand) : Ink × Hand :=
  match hand.seenInk? token with
  | some ink => (ink, hand)
  | none => hand.meet token

/-- Switch to the ink of a token, with the emphasis inside a block. -/
def mark (tracing : Tracing) (token : Token) (hand : Hand) : Hand :=
  let (ink, hand) := hand.inkOf token
  if hand.depth = 0 then { hand with ink := ink }
  else
    let (mixed, hand) := hand.emphasise tracing ink
    { hand with ink := mixed }

end Hand

/-- The pen of debug rendering. -/
def debugPen (tracing : Tracing) : Pen Hand Ink where
  ink := Hand.ink
  enter := Hand.enter tracing
  leave := Hand.leave
  mark := Hand.mark tracing

/-- The line of the legend that names one token. -/
def legendEntry (entry : Token × Ink) : List (Segment Ink) :=
  [⟨['\n'], none⟩, ⟨entry.1.location, some entry.2⟩]

/-- What separates a body from the legend: a blank line, and before it the end of the last line if it is open. -/
def legendGap (body : List (Segment Ink)) : List (Segment Ink) :=
  match body.getLast? with
  | none => []
  | some last =>
      (if last.text.getLast? == some '\n' then [] else [⟨['\n'], none⟩]) ++ [⟨['\n'], none⟩]

/-- The title and entries of the legend. -/
def legend (tracing : Tracing) (seen : List (Token × Ink)) : List (Segment Ink) :=
  ⟨tracing.legendTitle ++ [':'], some Ink.title⟩ :: seen.flatMap legendEntry ++ [⟨['\n'], none⟩]

/-- A body with its legend behind it. -/
def withLegend
    (tracing : Tracing)
    (seen : List (Token × Ink))
    (body : List (Segment Ink)) :
    List (Segment Ink) :=
  body ++ legendGap body ++ legend tracing seen

/-- A debug renderer with what its last use left behind. -/
structure DebugRenderer where
  spacing : Spacing
  tracing : Tracing
  desk : Desk Hand Ink := ⟨Sheet.start, Hand.start {} {}⟩

/-- What one debug rendering gives back: the segments or a fault, and the state that lasts. -/
structure DebugResult where
  segments : Except Malformed (List (Segment Ink))
  registry : Registry
  shelf : Shelf
  notes : List Note

namespace DebugRenderer

/-- What is reported at the end of a rendering. -/
def closingNote (seen : List (Token × Ink)) : Note :=
  ⟨.debugRendering, s!"Debug render saw {seen.length} provenance token(s)"⟩

/-- Render a document, and keep what the walk left. -/
def render
    (renderer : DebugRenderer)
    (registry : Registry)
    (shelf : Shelf)
    (document : Document) :
    DebugResult × DebugRenderer :=
  let desk : Desk Hand Ink :=
    ⟨renderer.desk.sheet.restart, renderer.desk.hand.restart registry shelf⟩
  match walkDocument (debugPen renderer.tracing) renderer.spacing desk document with
  | .ok done =>
      let segments := withLegend renderer.tracing done.hand.seen done.sheet.output
      ({ segments := .ok segments
         registry := done.hand.registry
         shelf := done.hand.shelf
         notes := done.hand.notes ++ [closingNote done.hand.seen] },
        { renderer with desk := { done with sheet := { done.sheet with output := segments } } })
  | .error (fault, left) =>
      ({ segments := .error fault
         registry := left.hand.registry
         shelf := left.hand.shelf
         notes := left.hand.notes },
        { renderer with desk := left })

end DebugRenderer

/-- The segments of a document on a given registry and shelf. -/
def debug
    (spacing : Spacing)
    (tracing : Tracing)
    (registry : Registry)
    (shelf : Shelf)
    (document : Document) :
    DebugResult :=
  (DebugRenderer.render { spacing := spacing, tracing := tracing } registry shelf document).1

/-- A renderer gives the same result whatever was rendered with it before. -/
theorem DebugRenderer.render_eq_debug
    (renderer : DebugRenderer)
    (registry : Registry)
    (shelf : Shelf)
    (document : Document) :
    (renderer.render registry shelf document).1 =
      debug renderer.spacing renderer.tracing registry shelf document := by
  unfold debug render
  simp only [Sheet.restart_eq_start, Hand.restart]

end Splice.Render
