import Splice.Settings.Spacing
import Splice.Text.Blank

namespace Splice.Render

/-!
# The sheet

Output is made one line at a time.  A line under construction is a row of
segments; when it is finished it goes to the output if it holds anything but
blanks, and otherwise it is dropped.  Line breaks are never written at once:
they are counted, up to a cap that the last line with content sets, and written
before the next such line, so the output never begins with a blank line.

The cap is zero until something was written (`Sheet.start`), and a line that is
written after another always has a break before it, because every cap is at
least one and finishing a line counts a break.

Renderers share all this.  What they put on a sheet where a line begins and where
lines are broken is their own (`Hooks`).
-/

/-- A stretch of output with what it is drawn with, if it is drawn with anything. -/
structure Segment (μ : Type) where
  text : Text
  ink : Option μ
  deriving DecidableEq

/-- The text of a row of segments. -/
def segmentsText {μ : Type} (segments : List (Segment μ)) : Text :=
  segments.flatMap Segment.text

/-- Whether a line begins with a closing bracket behind its blanks. -/
def closesBracket (line : Text) : Bool :=
  match Text.trimLeft line with
  | c :: _ => c == '}' || c == ')' || c == ']'
  | [] => false

/-- Whether a line ends with an opening bracket before its blanks. -/
def opensBracket (line : Text) : Bool :=
  match (Text.trimRight line).getLast? with
  | some c => c == '{' || c == '(' || c == '['
  | none => false

/-- The output so far, the line under construction and the line breaks that wait. -/
structure Sheet (μ : Type) where
  /-- Line breaks that wait for the next line with content. -/
  pending : Nat
  /-- The cap on waiting line breaks. -/
  cap : Nat
  /-- The length of the line under construction. -/
  column : Nat
  /-- Whether a line was written. -/
  emitted : Bool
  /-- The line under construction. -/
  line : List (Segment μ)
  /-- What was written. -/
  output : List (Segment μ)

/--
How a renderer writes what is no text of a document: the beginning of a line at a column, and a
number of line breaks.  Renderers differ in what they write for none of either.
-/
class Hooks (μ : Type) where
  padding (column : Nat) : List (Segment μ)
  feeds (count : Nat) : List (Segment μ)
  segmentsText_padding (column : Nat) : segmentsText (padding column) = List.replicate column ' '
  segmentsText_feeds (count : Nat) : segmentsText (feeds count) = List.replicate count '\n'

attribute [simp] Hooks.segmentsText_padding Hooks.segmentsText_feeds

namespace Sheet

variable {μ : Type} [Hooks μ]

/-- An empty sheet, made from one that may hold the remains of earlier work. -/
def restart (sheet : Sheet μ) : Sheet μ :=
  { sheet with
    pending := 0, cap := 0, column := 0, emitted := false, line := Hooks.padding 0, output := [] }

/-- An empty sheet. -/
def start : Sheet μ where
  pending := 0
  cap := 0
  column := 0
  emitted := false
  line := Hooks.padding 0
  output := []

/-- The text of the line under construction. -/
def lineText (sheet : Sheet μ) : Text :=
  segmentsText sheet.line

/-- Add text to the line under construction. -/
def write (sheet : Sheet μ) (text : Text) (ink : μ) : Sheet μ :=
  { sheet with
    column := sheet.column + text.length
    line := sheet.line ++ [⟨text, some ink⟩] }

/-- How many of the waiting line breaks a line leaves before itself. -/
def breaksBefore (spacing : Spacing) (sheet : Sheet μ) (line : Text) : Nat :=
  if closesBracket line then min sheet.pending spacing.capBeforeClose else sheet.pending

/-- The cap after a line. -/
def capAfter (spacing : Spacing) (line : Text) : Nat :=
  if opensBracket line then spacing.capAfterOpen else spacing.cap

/-- Move the line under construction to the output, with the line breaks before it. -/
def emit (spacing : Spacing) (sheet : Sheet μ) : Sheet μ :=
  let line := sheet.lineText
  { sheet with
    output := sheet.output ++ Hooks.feeds (sheet.breaksBefore spacing line) ++ sheet.line
    pending := 0
    emitted := true
    cap := capAfter spacing line }

/-- Finish the line under construction and begin the next one at a column. -/
def flush (spacing : Spacing) (column : Nat) (sheet : Sheet μ) : Sheet μ :=
  let written := if Text.allBlank sheet.lineText then sheet else sheet.emit spacing
  { written with column := column, line := Hooks.padding column }

/-- Finish the line and count one line break, unless as many as the cap allows wait already. -/
def breakLine (spacing : Spacing) (column : Nat) (sheet : Sheet μ) : Sheet μ :=
  let flushed := sheet.flush spacing column
  if flushed.pending < flushed.cap then { flushed with pending := flushed.pending + 1 } else flushed

/-- Finish the last line, and keep one final line break if the rules and the document ask for it. -/
def finish (spacing : Spacing) (sheet : Sheet μ) : Sheet μ :=
  let flushed := sheet.flush spacing 0
  if spacing.finalBreak && flushed.emitted && flushed.pending != 0 then
    { flushed with output := flushed.output ++ Hooks.feeds 1 }
  else flushed

/-- Restarting leaves nothing of the earlier work. -/
@[simp] theorem restart_eq_start (sheet : Sheet μ) : sheet.restart = start := by
  rfl

@[simp] theorem lineText_start : (start : Sheet μ).lineText = [] :=
  Hooks.segmentsText_padding 0

/-- After a line is finished the next one consists of its padding. -/
theorem lineText_flush
    (spacing : Spacing)
    (column : Nat)
    (sheet : Sheet μ) :
    (sheet.flush spacing column).lineText = List.replicate column ' ' :=
  Hooks.segmentsText_padding column

end Sheet

end Splice.Render
