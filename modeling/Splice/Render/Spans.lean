import Splice.Render.Debug

namespace Splice.Render

/-!
# Styled text

Segments as one text with spans.  A few control characters, which would ring or
move the cursor, are left out of the text; every segment that is not empty and
whose ink decides something gives a span over the characters that are left.
-/

/-- A stretch of a styled text: where it begins, where it ends, and its style. -/
structure Span where
  start : Nat
  stop : Nat
  style : Style
  deriving DecidableEq

/-- A text with spans. -/
structure StyledText where
  plain : Text
  spans : List Span
  deriving DecidableEq

/-- Characters that a styled text leaves out: bell, backspace, vertical tab, form feed, carriage return. -/
def isCursorControl (c : Char) : Bool :=
  let n := c.toNat
  n == 7 || n == 8 || n == 11 || n == 12 || n == 13

/-- The characters of a text that a styled text keeps. -/
def withoutCursorControls (t : Text) : Text :=
  t.filter fun c => !isCursorControl c

/-- Add a segment at the end of a styled text. -/
def StyledText.append (styled : StyledText) (segment : Segment Ink) : StyledText :=
  let kept := withoutCursorControls segment.text
  let start := styled.plain.length
  let spans := match segment.ink with
    | none => []
    | some ink =>
        if segment.text.isEmpty || ink.style.isNull then []
        else [⟨start, start + kept.length, ink.style⟩]
  ⟨styled.plain ++ kept, styled.spans ++ spans⟩

/-- Segments as a styled text. -/
def styledText (segments : List (Segment Ink)) : StyledText :=
  segments.foldl StyledText.append ⟨[], []⟩

end Splice.Render
