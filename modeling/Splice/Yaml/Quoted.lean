import Splice.Yaml.Cursor

namespace Splice.Yaml

/-!
# Quoted scalars

A scalar between single quotes holds a single quote as two; one between double
quotes holds escapes.  Blanks around a line end are dropped: one line end
becomes a space and each further one counts as a line end of the scalar.

An escape may give the number of half a surrogate pair.  That is no character, so no
text can hold it, and the whole text is given up (`Fault.surrogate`).
-/

/-- What a one-character escape stands for. -/
def escapedChar? : Char → Option Char
  | '0' => some nul
  | 'a' => some '\x07'
  | 'b' => some '\x08'
  | 't' => some '\t'
  | '\t' => some '\t'
  | 'n' => some '\n'
  | 'v' => some '\x0b'
  | 'f' => some '\x0c'
  | 'r' => some '\r'
  | 'e' => some '\x1b'
  | ' ' => some ' '
  | '"' => some '"'
  | '\\' => some '\\'
  | '/' => some '/'
  | 'N' => some '\u0085'
  | '_' => some '\u00a0'
  | 'L' => some lineSeparator
  | 'P' => some paragraphSeparator
  | _ => none

/-- How many digits follow the letter of a numeric escape. -/
def escapeDigits? : Char → Option Nat
  | 'x' => some 2
  | 'u' => some 4
  | 'U' => some 8
  | _ => none

/-- The character with a number. -/
def numberedChar (n : Nat) : Except Fault Char :=
  if 0xD800 ≤ n ∧ n < 0xE000 then .error .surrogate
  else if n < 0x110000 then .ok (Char.ofNat n)
  else if n < 0x80000000 then .error .character
  else .error .characterSize

/-- What a line break of a scalar leaves behind, when `further` ones follow it. -/
def foldedBreak (first further : Text) : Text :=
  if first != ['\n'] then first ++ further
  else if further.isEmpty then [' ']
  else further

namespace Cursor

/-- The line ends at the cursor with blanks between them; a document must not end here. -/
def quotedBreaks : (fuel : Nat) → Cursor → Except Fault (Text × Cursor)
  | 0, cursor => .ok ([], cursor)
  | fuel + 1, cursor =>
      if cursor.isBoundary then .error .malformed
      else
        let solid := cursor.skipWhile fun c => c == ' ' || c == '\t'
        if isBreak solid.here then do
          let (first, behind) := solid.lineBreak
          let (others, last) ← quotedBreaks fuel behind
          return (first ++ others, last)
        else .ok ([], solid)

/-- The escape at the cursor, which is a backslash. -/
def escape (cursor : Cursor) : Except Fault (Text × Cursor) :=
  let letter := cursor.peek 1
  match escapedChar? letter, escapeDigits? letter with
  | some c, _ => .ok ([c], cursor.skip 2)
  | none, some count =>
      let digits := (cursor.rest.drop 2).take count
      if digits.length = count ∧ digits.all isHexDigit then do
        let c ← numberedChar (hexNumber digits)
        return ([c], cursor.skip (2 + count))
      else .error .malformed
  | none, none =>
      if isBreak letter then
        let behind := cursor.next.lineBreak.2
        quotedBreaks (behind.rest.length + 1) behind
      else .error .malformed

/-- What stands in a quoted scalar before the next blank or the closing quote. -/
def quotedRun (double : Bool) : (fuel : Nat) → Cursor → Except Fault (Text × Cursor)
  | 0, cursor => .ok ([], cursor)
  | fuel + 1, cursor => do
      let (plain, stop) := cursor.span fun c => !(isGap c || c == '\'' || c == '"' || c == '\\')
      let c := stop.here
      if !double && c == '\'' && stop.peek 1 == '\'' then
        let (others, last) ← quotedRun double fuel (stop.skip 2)
        return (plain ++ '\'' :: others, last)
      else if (double && c == '\'') || (!double && (c == '"' || c == '\\')) then
        let (others, last) ← quotedRun double fuel stop.next
        return (plain ++ c :: others, last)
      else if double && c == '\\' then
        let (escaped, behind) ← stop.escape
        let (others, last) ← quotedRun double fuel behind
        return (plain ++ escaped ++ others, last)
      else return (plain, stop)

/-- What the blanks at the cursor leave in a quoted scalar. -/
def quotedGap (cursor : Cursor) : Except Fault (Text × Cursor) :=
  let (blanks, stop) := cursor.span fun c => c == ' ' || c == '\t'
  if stop.here == nul then .error .malformed
  else if isBreak stop.here then do
    let (first, behind) := stop.lineBreak
    let (further, last) ← quotedBreaks (behind.rest.length + 1) behind
    return (foldedBreak first further, last)
  else .ok (blanks, stop)

/-- The rest of a quoted scalar up to its closing quote. -/
def quotedRest (quote : Char) : (fuel : Nat) → Cursor → Except Fault (Text × Cursor)
  | 0, _ => .error .malformed
  | fuel + 1, cursor => do
      if cursor.here == quote then return ([], cursor.next)
      else
        let (gap, stop) ← cursor.quotedGap
        let (run, behind) ← quotedRun (quote == '"') (stop.rest.length + 1) stop
        let (others, last) ← quotedRest quote fuel behind
        return (gap ++ run ++ others, last)

/-- The quoted scalar at the cursor, which is its opening quote. -/
def quotedScalar (cursor : Cursor) : Except Fault (Text × Cursor) := do
  let quote := cursor.here
  let (run, behind) ← quotedRun (quote == '"') (cursor.rest.length + 1) cursor.next
  let (others, last) ← quotedRest quote (behind.rest.length + 1) behind
  return (run ++ others, last)

end Cursor

end Splice.Yaml
