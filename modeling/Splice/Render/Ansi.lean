import Splice.Render.Debug

namespace Splice.Render

/-!
# Segments for a terminal

Neighbouring segments of equal style are joined, and each stretch is written
between the codes of its ink and a reset.  A segment without ink, or whose ink
decides nothing, is written as it is.
-/

/-- Whether two segments are drawn alike: both without ink, or with inks of one style. -/
def drawnAlike (left right : Option Ink) : Bool :=
  match left, right with
  | none, none => true
  | some leftInk, some rightInk => leftInk.style == rightInk.style
  | _, _ => false

/-- Join neighbours that are drawn alike to the segment before them, whose ink stays. -/
def joinAfter (last : Segment Ink) : List (Segment Ink) → List (Segment Ink)
  | [] => [last]
  | segment :: rest =>
      if drawnAlike last.ink segment.ink then
        joinAfter ⟨last.text ++ segment.text, last.ink⟩ rest
      else
        last :: joinAfter segment rest

/-- Join neighbours that are drawn alike. -/
def joined : List (Segment Ink) → List (Segment Ink)
  | [] => []
  | segment :: rest => joinAfter segment rest

/-- Write segments for a terminal of the given system. -/
def writeAll (system : ColourSystem) (shelf : Shelf) : List (Segment Ink) → Text × Shelf
  | [] => ([], shelf)
  | segment :: rest =>
      let (first, shelf) := match segment.ink with
        | none => (segment.text, shelf)
        | some ink => shelf.write system ink segment.text
      let (others, shelf) := writeAll system shelf rest
      (first ++ others, shelf)

/-- The text of segments for a terminal. -/
def ansi (system : ColourSystem) (shelf : Shelf) (segments : List (Segment Ink)) : Text × Shelf :=
  writeAll system shelf (joined segments)

/-- Joining neighbours keeps the text. -/
theorem segmentsText_joined
    (segments : List (Segment Ink)) :
    segmentsText (joined segments) = segmentsText segments := by
  have keeps (rest : List (Segment Ink)) :
      ∀ last, segmentsText (joinAfter last rest) = last.text ++ segmentsText rest := by
    induction rest with
    | nil => intro last; simp [joinAfter, segmentsText]
    | cons segment others inductionHypothesis =>
        intro last
        simp only [joinAfter]
        split
        · rw [inductionHypothesis]
          simp [segmentsText]
        · have here := inductionHypothesis segment
          unfold segmentsText at here ⊢
          simp [here]
  cases segments with
  | nil => rfl
  | cons segment rest =>
      rw [joined, keeps]
      simp [segmentsText]

end Splice.Render
