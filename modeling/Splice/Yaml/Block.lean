import Splice.Yaml.Cursor

namespace Splice.Yaml

/-!
# Block scalars

A scalar that is a block of lines.  Its indentation is that of its first line
unless a digit gives it.  A literal block keeps its line ends; a folded one turns
a single line end between two lines that begin with no blank into a space.  A
sign behind the indicator says what becomes of the line ends at the end.
-/

/-- What becomes of the line ends at the end of a block. -/
inductive Chomping where
  /-- One is kept. -/
  | clip
  /-- None is kept. -/
  | strip
  /-- All are kept. -/
  | keep
  deriving DecidableEq

namespace Cursor

/-- The sign that gives the chomping. -/
def chomping? (cursor : Cursor) : Option Chomping :=
  if cursor.here == '+' then some .keep
  else if cursor.here == '-' then some .strip
  else none

/-- The digit that gives the indentation; zero is refused. -/
def increment? (cursor : Cursor) : Except Fault (Option Nat × Cursor) :=
  if cursor.here.isDigit then
    if cursor.here == '0' then .error .malformed
    else .ok (some (cursor.here.toNat - '0'.toNat), cursor.next)
  else .ok (none, cursor)

/-- The sign and digit behind the indicator of a block, in either order. -/
def blockHeader (cursor : Cursor) : Except Fault (Chomping × Option Nat × Cursor) := do
  let (chomping, increment, behind) ←
    match cursor.chomping? with
    | some chomping => do
        let (increment, behind) ← cursor.next.increment?
        pure (chomping, increment, behind)
    | none => do
        let (increment, behind) ← cursor.increment?
        match increment, behind.chomping? with
        | some _, some chomping => pure (chomping, increment, behind.next)
        | _, _ => pure (.clip, increment, behind)
  if endsWord behind.here then return (chomping, increment, behind) else .error .malformed

/-- The line ends at the front of a block and the widest run of spaces between them. -/
def leadingBreaks : (fuel widest : Nat) → Cursor → Text × Nat × Cursor
  | 0, widest, cursor => ([], widest, cursor)
  | fuel + 1, widest, cursor =>
      let solid := cursor.skipSpaces
      let widest := max widest (if cursor.here == ' ' then solid.column else 0)
      if isBreak solid.here then
        let (first, behind) := solid.lineBreak
        let (others, widest, last) := leadingBreaks fuel widest behind
        (first ++ others, widest, last)
      else ([], widest, solid)

/-- Skip spaces up to a column. -/
def skipIndent (indent : Nat) (cursor : Cursor) : Cursor :=
  cursor.skip (min (indent - cursor.column) (cursor.rest.takeWhile (· == ' ')).length)

/-- The line ends at the cursor, each line behind one having no more spaces skipped than the indentation. -/
def blockBreaks (indent : Nat) : (fuel : Nat) → Cursor → Text × Cursor
  | 0, cursor => ([], cursor)
  | fuel + 1, cursor =>
      let solid := cursor.skipIndent indent
      if isBreak solid.here then
        let (first, behind) := solid.lineBreak
        let (others, last) := blockBreaks indent fuel behind
        (first ++ others, last)
      else ([], solid)

/-- Whether a line of a block begins at the cursor. -/
def isBlockLine (indent : Nat) (cursor : Cursor) : Bool :=
  cursor.column == indent && cursor.here != nul

/-- The line ends at the end of a block, as its chomping has them. -/
def chomped (chomping : Chomping) (last further : Text) : Text :=
  match chomping with
  | .clip => last
  | .strip => []
  | .keep => last ++ further

/-- What a line end between two lines of a block leaves, when `further` ones follow it. -/
def joint (folded : Bool) (first further : Text) (solidBefore solidAfter : Bool) : Text :=
  if folded && first == ['\n'] && solidBefore && solidAfter then
    (if further.isEmpty then [' '] else [])
  else first

/-- The lines of a block, the first of which begins at the cursor. -/
def blockLines (folded : Bool) (chomping : Chomping) (indent : Nat) :
    (fuel : Nat) → Cursor → Text × Cursor
  | 0, cursor => ([], cursor)
  | fuel + 1, cursor =>
      let isBlank (c : Char) : Bool := c == ' ' || c == '\t'
      let (line, stop) := cursor.span fun c => !endsLine c
      let (first, behind) := stop.lineBreak
      let (further, next) := blockBreaks indent (behind.rest.length + 1) behind
      if next.isBlockLine indent then
        let (others, last) := blockLines folded chomping indent fuel next
        (line ++ joint folded first further (!isBlank cursor.here) (!isBlank next.here) ++
          further ++ others, last)
      else (line ++ chomped chomping first further, next)

/-- The block scalar at the cursor, which is its indicator, inside a block indented by `indent`. -/
def blockScalar (indent : Int) (cursor : Cursor) : Except Fault (Text × Cursor) := do
  let (chomping, increment, behind) ← cursor.next.blockHeader
  let start ← behind.finishLine
  let least := max 1 (indent + 1).toNat
  let fuel := start.rest.length + 1
  let (depth, breaks, first) :=
    match increment with
    | some n =>
        let depth := least + n - 1
        (depth, blockBreaks depth fuel start)
    | none =>
        let (breaks, widest, last) := leadingBreaks fuel 0 start
        (max least widest, breaks, last)
  if first.isBlockLine depth then
    let (lines, last) := blockLines (cursor.here == '>') chomping depth (first.rest.length + 1) first
    return (breaks ++ lines, last)
  else return (chomped chomping [] breaks, first)

end Cursor

end Splice.Yaml
