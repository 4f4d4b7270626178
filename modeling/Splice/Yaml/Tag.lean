import Splice.Yaml.Cursor
import Splice.Yaml.Token

namespace Splice.Yaml

/-!
# Tags, anchors and directives

How the properties of a node and the directives of a document are written.
-/

namespace Cursor

/-- The octets of consecutive percent escapes; `fuel` bounds their number. -/
def octets : (fuel : Nat) → Cursor → Except Fault (List UInt8 × Cursor)
  | 0, cursor => .ok ([], cursor)
  | fuel + 1, cursor =>
      if cursor.here != '%' then .ok ([], cursor)
      else
        let digits := (cursor.rest.drop 1).take 2
        if digits.length = 2 ∧ digits.all isHexDigit then do
          let (others, behind) ← octets fuel (cursor.skip 3)
          return (UInt8.ofNat (hexNumber digits) :: others, behind)
        else .error .malformed

/-- The characters that consecutive percent escapes spell. -/
def escapedText (cursor : Cursor) : Except Fault (Text × Cursor) := do
  let (bytes, behind) ← octets cursor.rest.length cursor
  match String.fromUTF8? ⟨bytes.toArray⟩ with
  | some text => return (text.toList, behind)
  | none => .error .malformed

/-- Whether a character may stand in a tag by itself. -/
def isAddressChar (c : Char) : Bool :=
  isNameChar c || ";/?:@&=+$,.!~*'()[]".toList.contains c

/-- The text of a tag, which may hold percent escapes; `fuel` bounds their number. -/
def addressPart : (fuel : Nat) → Cursor → Except Fault (Text × Cursor)
  | 0, cursor => .ok ([], cursor)
  | fuel + 1, cursor => do
      let (plain, behind) := cursor.span isAddressChar
      if behind.here != '%' then return (plain, behind)
      else
        let (escaped, after) ← behind.escapedText
        let (others, last) ← addressPart fuel after
        return (plain ++ escaped ++ others, last)

/-- The text of a tag, which must not be empty. -/
def address (cursor : Cursor) : Except Fault (Text × Cursor) := do
  if isAddressChar cursor.here || cursor.here == '%' then
    addressPart (cursor.rest.length + 1) cursor
  else .error .malformed

/-- A tag handle: one exclamation mark before a space, or a name between two. -/
def handle (cursor : Cursor) : Except Fault (Text × Cursor) :=
  if cursor.here != '!' then .error .malformed
  else if cursor.peek 1 == ' ' then .ok (['!'], cursor.next)
  else
    let (found, behind) := cursor.next.span isNameChar
    if behind.here == '!' then .ok ('!' :: found ++ ['!'], behind.next) else .error .malformed

/-- Whether the word behind an exclamation mark holds another one. -/
def hasHandle (cursor : Cursor) : Bool :=
  ((cursor.rest.drop 1).takeWhile fun c => !endsWord c).contains '!'

/-- The tag at the cursor, which begins with an exclamation mark. -/
def writtenTag (cursor : Cursor) : Except Fault (WrittenTag × Cursor) := do
  let (written, behind) ←
    if cursor.peek 1 == '<' then do
      let (suffix, behind) ← (cursor.skip 2).address
      if behind.here == '>' then pure (⟨none, suffix⟩, behind.next) else .error .malformed
    else if isGap (cursor.peek 1) then pure (⟨none, ['!']⟩, cursor.next)
    else do
      let (found, behind) ← if cursor.hasHandle then cursor.handle else pure (['!'], cursor.next)
      let (suffix, after) ← behind.address
      pure (WrittenTag.mk (some found) suffix, after)
  if endsWord behind.here then return (written, behind) else .error .malformed

/-- The name of an anchor or alias behind its sign. -/
def anchorName (cursor : Cursor) : Except Fault (Text × Cursor) := do
  let (found, behind) ← cursor.next.name
  if isGap behind.here || "?:,]\x7d%@`".toList.contains behind.here then return (found, behind)
  else .error .malformed

/-- A number of a version. -/
def versionNumber (cursor : Cursor) : Except Fault (Nat × Cursor) :=
  let (digits, behind) := cursor.span Char.isDigit
  if digits.isEmpty then .error .malformed
  else .ok (digits.foldl (fun n c => 10 * n + (c.toNat - '0'.toNat)) 0, behind)

/-- The version that a directive names. -/
def version (cursor : Cursor) : Except Fault (Directive × Cursor) := do
  let (major, behind) ← cursor.skipSpaces.versionNumber
  if behind.here != '.' then .error .malformed
  else
    let (minor, after) ← behind.next.versionNumber
    if endsWord after.here then return (.version major minor, after) else .error .malformed

/-- The handle that a directive explains. -/
def handleDirective (cursor : Cursor) : Except Fault (Directive × Cursor) := do
  let (found, behind) ← cursor.skipSpaces.handle
  if behind.here != ' ' then .error .malformed
  else
    let (start, after) ← behind.skipSpaces.address
    if endsWord after.here then return (.handle found start, after) else .error .malformed

/-- The directive at the cursor and the cursor behind its line. -/
def directive (cursor : Cursor) : Except Fault (Directive × Cursor) := do
  let (kind, behind) ← cursor.next.name
  if !endsWord behind.here then .error .malformed
  else
    let (found, after) ←
      if kind == "YAML".toList then behind.version
      else if kind == "TAG".toList then behind.handleDirective
      else pure (.reserved, behind.skipWhile fun c => !endsLine c)
    return (found, ← after.finishLine)

end Cursor

end Splice.Yaml
