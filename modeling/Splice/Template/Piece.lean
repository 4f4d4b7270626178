import Splice.Template.Indent
import Splice.Template.Placeholder

namespace Splice.Template

/-!
# Pieces of a template

A dedented template is a row of pieces: the parts of its lines with a line break
between two lines.  A template may also be cut without looking for placeholders,
and then a line that is not empty is one literal.
-/

/-- A line break or a part of a line. -/
inductive Piece where
  | newline
  | part (cut : Part)
  deriving DecidableEq

namespace Piece

/-- The text that a piece was cut from. -/
def source : Piece → Text
  | .newline => ['\n']
  | .part cut => cut.source

/-- The name of a placeholder. -/
def name? : Piece → Option Text
  | .newline => none
  | .part cut => cut.name?

end Piece

/-- The parts of one line, with or without placeholders. -/
def lineParts (scan : Bool) (line : Text) : List Part :=
  if scan then parts line else Part.literalBefore line []

/-- The parts of several lines with a line break before each. -/
def brokenPieces (scan : Bool) (lines : List Text) : List Piece :=
  lines.flatMap fun line => .newline :: (lineParts scan line).map .part

/-- The pieces of a dedented template. -/
def pieces (scan : Bool) (template : Text) : List Piece :=
  match dedent template with
  | [] => []
  | first :: rest => (lineParts scan first).map .part ++ brokenPieces scan rest

end Splice.Template
