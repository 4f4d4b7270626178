import Splice.Yaml.Fault

namespace Splice.Yaml

/-!
# A place in a text

A cursor is what is left of a text, with the line and column at which it begins.
The end reads as the character zero, which no text of this format holds.  Beside
the line feed there are four more line ends; all but the two Unicode separators
count as a line feed.
-/

/-- What is left of a text, and where that is. -/
structure Cursor where
  rest : Text
  index : Nat := 0
  line : Nat := 0
  column : Nat := 0

/-- The end of the text. -/
def nul : Char := '\x00'

/-- The mark that may stand in front of a text and takes no column. -/
def byteOrderMark : Char := '\uFEFF'

/-- The separator of lines. -/
def lineSeparator : Char := '\u2028'

/-- The separator of paragraphs. -/
def paragraphSeparator : Char := '\u2029'

/-- Whether a character ends a line. -/
def isBreak (c : Char) : Bool :=
  c == '\n' || c == '\r' || c == '\u0085' || c == lineSeparator || c == paragraphSeparator

/-- Whether a line is over at a character. -/
def endsLine (c : Char) : Bool :=
  c == nul || isBreak c

/-- Whether a character is the end, a line end or a space. -/
def endsWord (c : Char) : Bool :=
  c == ' ' || endsLine c

/-- Whether a character is the end, a line end, a space or a tab. -/
def isGap (c : Char) : Bool :=
  c == '\t' || endsWord c

/-- Whether a character may belong to the name of an anchor or a tag handle. -/
def isNameChar (c : Char) : Bool :=
  c.isAlphanum || c == '-' || c == '_'

/-- Whether a character is a hexadecimal digit. -/
def isHexDigit (c : Char) : Bool :=
  c.isDigit || ('a' ≤ c && c ≤ 'f') || ('A' ≤ c && c ≤ 'F')

/-- The value of a hexadecimal digit. -/
def hexValue (c : Char) : Nat :=
  if c.isDigit then c.toNat - '0'.toNat
  else if 'a' ≤ c ∧ c ≤ 'f' then c.toNat - 'a'.toNat + 10
  else c.toNat - 'A'.toNat + 10

/-- The number that hexadecimal digits spell. -/
def hexNumber (digits : Text) : Nat :=
  digits.foldl (fun n c => 16 * n + hexValue c) 0

namespace Cursor

/-- The character `ahead` places further on. -/
def peek (cursor : Cursor) (ahead : Nat) : Char :=
  (cursor.rest.drop ahead).headD nul

/-- The character at the cursor. -/
def here (cursor : Cursor) : Char :=
  cursor.rest.headD nul

/-- Go one character further. -/
def next (cursor : Cursor) : Cursor :=
  match cursor.rest with
  | [] => cursor
  | c :: rest =>
      let moved := { cursor with rest := rest, index := cursor.index + 1 }
      if isBreak c && !(c == '\r' && rest.headD nul == '\n') then
        { moved with line := cursor.line + 1, column := 0 }
      else if c == byteOrderMark then moved
      else { moved with column := cursor.column + 1 }

/-- Go some characters further. -/
def skip (cursor : Cursor) : Nat → Cursor
  | 0 => cursor
  | count + 1 => cursor.next.skip count

/-- The characters up to the first that does not satisfy `keep`, and the cursor behind them. -/
def span (cursor : Cursor) (keep : Char → Bool) : Text × Cursor :=
  let taken := cursor.rest.takeWhile keep
  (taken, cursor.skip taken.length)

/-- Go to the first character that does not satisfy `keep`. -/
def skipWhile (cursor : Cursor) (keep : Char → Bool) : Cursor :=
  (cursor.span keep).2

/-- Go to the first character that is no space. -/
def skipSpaces (cursor : Cursor) : Cursor :=
  cursor.skipWhile (· == ' ')

/-- Go behind a comment, if one begins here. -/
def skipComment (cursor : Cursor) : Cursor :=
  if cursor.here == '#' then cursor.skipWhile fun c => !endsLine c else cursor

/-- The line end at the cursor, as it counts in a text, and the cursor behind it. -/
def lineBreak (cursor : Cursor) : Text × Cursor :=
  match cursor.rest with
  | '\r' :: '\n' :: _ => (['\n'], cursor.skip 2)
  | c :: _ =>
      if c == lineSeparator || c == paragraphSeparator then ([c], cursor.next)
      else if isBreak c then (['\n'], cursor.next)
      else ([], cursor)
  | [] => ([], cursor)

/-- Go behind a line on which nothing but spaces and a comment is left. -/
def finishLine (cursor : Cursor) : Except Fault Cursor :=
  let atEnd := cursor.skipSpaces.skipComment
  if endsLine atEnd.here then .ok atEnd.lineBreak.2 else .error .malformed

/-- Whether three equal characters that stand alone are at the cursor. -/
def isRule (cursor : Cursor) (c : Char) : Bool :=
  cursor.rest.take 3 == [c, c, c] && isGap (cursor.peek 3)

/-- Whether a document begins or ends at the cursor. -/
def isBoundary (cursor : Cursor) : Bool :=
  cursor.isRule '-' || cursor.isRule '.'

/-- The name at the cursor, which must not be empty. -/
def name (cursor : Cursor) : Except Fault (Text × Cursor) :=
  let (found, behind) := cursor.span isNameChar
  if found.isEmpty then .error .malformed else .ok (found, behind)

end Cursor

end Splice.Yaml
