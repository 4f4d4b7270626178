import Splice.Yaml.Block
import Splice.Yaml.Plain
import Splice.Yaml.Tag

namespace Splice.Yaml

/-!
# From text to tokens

The indicators, scalars and properties of a text in order, with the tokens that
stand for indentation.  That a node is a mapping key shows only at the colon
behind it; so every node that may be a key is remembered with its place, and the
colon puts the key token in front of it.  Such a key lies on one line and is at
most 1024 characters long.
-/

/-- A node that becomes a key if a colon follows. -/
structure KeyCandidate where
  /-- How many tokens stand before the node. -/
  position : Nat
  /-- Whether a colon has to follow. -/
  required : Bool
  index : Nat
  line : Nat
  column : Nat

/-- The tokens read so far, and what their order says about the tokens to come. -/
structure Lexer where
  cursor : Cursor
  /-- How many brackets are open. -/
  depth : Nat := 0
  /-- The indentation of the innermost block. -/
  indent : Int := -1
  /-- The indentations of the blocks around it. -/
  outer : List Int := []
  /-- Whether a key may begin here. -/
  keyAllowed : Bool := true
  /-- The last candidate at each depth. -/
  candidates : List (Nat × KeyCandidate) := []
  tokens : Array Token := #[]

namespace Lexer

/-- Whether the lexer is between brackets. -/
def inFlow (lexer : Lexer) : Bool :=
  lexer.depth != 0

/-- Add a token at the end. -/
def push (token : Token) (lexer : Lexer) : Lexer :=
  { lexer with tokens := lexer.tokens.push token }

/-- Add a token and go some characters further. -/
def pushOver (token : Token) (width : Nat) (lexer : Lexer) : Lexer :=
  { lexer with tokens := lexer.tokens.push token, cursor := lexer.cursor.skip width }

/-- Say whether a key may begin here. -/
def allowKey (allowed : Bool) (lexer : Lexer) : Lexer :=
  { lexer with keyAllowed := allowed }

/-- Whether a candidate is too far behind to become a key. -/
def isStale (lexer : Lexer) (candidate : KeyCandidate) : Bool :=
  candidate.line != lexer.cursor.line || candidate.index + 1024 < lexer.cursor.index

/-- Forget the candidates that cannot become keys any more. -/
def dropStale (lexer : Lexer) : Except Fault Lexer :=
  let (stale, fresh) := lexer.candidates.partition fun entry => lexer.isStale entry.2
  if stale.any fun entry => entry.2.required then .error .malformed
  else .ok { lexer with candidates := fresh }

/-- Forget the candidate at this depth. -/
def dropCandidate (lexer : Lexer) : Except Fault Lexer :=
  match lexer.candidates.lookup lexer.depth with
  | none => .ok lexer
  | some candidate =>
      if candidate.required then .error .malformed
      else .ok { lexer with
        candidates := lexer.candidates.filter fun entry => entry.1 != lexer.depth }

/-- Remember the node that begins here as a candidate, if a key may begin here. -/
def saveCandidate (lexer : Lexer) : Except Fault Lexer :=
  if lexer.keyAllowed then do
    let cleared ← lexer.dropCandidate
    let candidate : KeyCandidate := {
      position := lexer.tokens.size
      required := !lexer.inFlow && lexer.indent == lexer.cursor.column
      index := lexer.cursor.index
      line := lexer.cursor.line
      column := lexer.cursor.column }
    return { cleared with candidates := (lexer.depth, candidate) :: cleared.candidates }
  else .ok lexer

/-- End the blocks that are indented further than `column`. -/
def closeBlocks (column : Int) : (indent : Int) → List Int → Array Token →
    Int × List Int × Array Token
  | indent, [], tokens => (indent, [], tokens)
  | indent, next :: outer, tokens =>
      if column < indent then closeBlocks column next outer (tokens.push .blockEnd)
      else (indent, next :: outer, tokens)

/-- End the blocks that are indented further than `column`, unless brackets are open. -/
def unwind (column : Int) (lexer : Lexer) : Lexer :=
  if lexer.inFlow then lexer
  else
    let (indent, outer, tokens) := closeBlocks column lexer.indent lexer.outer lexer.tokens
    { lexer with indent := indent, outer := outer, tokens := tokens }

/-- Begin a block at a column, if it is indented further than the one around it. -/
def openBlock (column position : Nat) (token : Token) (lexer : Lexer) : Lexer :=
  if lexer.indent < column then
    { lexer with
      indent := column
      outer := lexer.indent :: lexer.outer
      tokens := lexer.tokens.insertIdxIfInBounds position token }
  else lexer

/-- Begin a block here outside brackets, where that is allowed only where a key may begin. -/
def openBlockHere (token : Token) (lexer : Lexer) : Except Fault Lexer :=
  if lexer.inFlow then .ok lexer
  else if !lexer.keyAllowed then .error .malformed
  else .ok (lexer.openBlock lexer.cursor.column lexer.tokens.size token)

/-- Skip spaces, comments and line ends; `fuel` bounds the lines. -/
def skipGap : (fuel : Nat) → Lexer → Lexer
  | 0, lexer => lexer
  | fuel + 1, lexer =>
      let stop := lexer.cursor.skipSpaces.skipComment
      if isBreak stop.here then
        skipGap fuel { lexer with
          cursor := stop.lineBreak.2
          keyAllowed := lexer.keyAllowed || !lexer.inFlow }
      else { lexer with cursor := stop }

/-- Skip what stands before the next token. -/
def toNextToken (lexer : Lexer) : Lexer :=
  let cursor := lexer.cursor
  let start :=
    if cursor.index = 0 && cursor.here == byteOrderMark then cursor.next else cursor
  skipGap (start.rest.length + 1) { lexer with cursor := start }

/-- Leave all blocks, as the boundary of a document does. -/
def leaveDocument (lexer : Lexer) : Except Fault Lexer := do
  let cleared ← (lexer.unwind (-1)).dropCandidate
  return cleared.allowKey false

/-- A directive. -/
def directive (lexer : Lexer) : Except Fault Lexer := do
  let outside ← lexer.leaveDocument
  let (content, behind) ← outside.cursor.directive
  return { outside with tokens := outside.tokens.push (.directive content), cursor := behind }

/-- The beginning or end of a document. -/
def boundary (token : Token) (lexer : Lexer) : Except Fault Lexer := do
  let outside ← lexer.leaveDocument
  return outside.pushOver token 3

/-- An opening bracket. -/
def openBracket (token : Token) (lexer : Lexer) : Except Fault Lexer := do
  let saved ← lexer.saveCandidate
  return ({ saved with depth := saved.depth + 1 }.allowKey true).pushOver token 1

/-- A closing bracket. -/
def closeBracket (token : Token) (lexer : Lexer) : Except Fault Lexer := do
  let cleared ← lexer.dropCandidate
  return ({ cleared with depth := cleared.depth - 1 }.allowKey false).pushOver token 1

/-- A comma between brackets. -/
def comma (lexer : Lexer) : Except Fault Lexer := do
  let cleared ← lexer.dropCandidate
  return (cleared.allowKey true).pushOver .flowEntry 1

/-- A dash before an entry of a block sequence. -/
def dash (lexer : Lexer) : Except Fault Lexer := do
  let opened ← lexer.openBlockHere .blockSequenceStart
  let cleared ← opened.dropCandidate
  return (cleared.allowKey true).pushOver .blockEntry 1

/-- A question mark before a key. -/
def question (lexer : Lexer) : Except Fault Lexer := do
  let opened ← lexer.openBlockHere .blockMappingStart
  let cleared ← opened.dropCandidate
  return (cleared.allowKey (!cleared.inFlow)).pushOver .key 1

/-- Make a candidate a key, and begin a mapping at it if none is open at its column. -/
def becomeKey (candidate : KeyCandidate) (lexer : Lexer) : Lexer :=
  let keyed := { lexer with
    candidates := lexer.candidates.filter fun entry => entry.1 != lexer.depth
    tokens := lexer.tokens.insertIdxIfInBounds candidate.position .key }
  let opened :=
    if keyed.inFlow then keyed
    else keyed.openBlock candidate.column candidate.position .blockMappingStart
  opened.allowKey false

/-- A colon before a value. -/
def colon (lexer : Lexer) : Except Fault Lexer := do
  let ready ←
    match lexer.candidates.lookup lexer.depth with
    | some candidate => pure (lexer.becomeKey candidate)
    | none => do
        let opened ← lexer.openBlockHere .blockMappingStart
        (opened.allowKey (!opened.inFlow)).dropCandidate
  return ready.pushOver .value 1

/-- A property or scalar, which may be the beginning of a key. -/
def nodePart (read : Cursor → Except Fault (Token × Cursor)) (lexer : Lexer) :
    Except Fault Lexer := do
  let saved ← lexer.saveCandidate
  let (token, behind) ← read saved.cursor
  return { saved with tokens := saved.tokens.push token, cursor := behind, keyAllowed := false }

/-- A plain scalar, behind which a key may begin if it ended at a line end. -/
def plain (lexer : Lexer) : Except Fault Lexer := do
  let saved ← lexer.saveCandidate
  let (text, broken, behind) :=
    saved.cursor.plainScalar saved.inFlow (saved.indent + 1).toNat
  return { saved with
    tokens := saved.tokens.push (.scalar text true), cursor := behind, keyAllowed := broken }

/-- A block scalar. -/
def block (lexer : Lexer) : Except Fault Lexer := do
  let cleared ← lexer.dropCandidate
  let (text, behind) ← cleared.cursor.blockScalar cleared.indent
  return { cleared with
    tokens := cleared.tokens.push (.scalar text false), cursor := behind, keyAllowed := true }

/-- Whether a plain scalar begins at the cursor. -/
def beginsPlain (lexer : Lexer) : Bool :=
  let c := lexer.cursor.here
  !(isGap c || "-?:,[]\x7b\x7d#&*!|>'\"%@`".toList.contains c) ||
    (!isGap (lexer.cursor.peek 1) && (c == '-' || (!lexer.inFlow && (c == '?' || c == ':'))))

/-- The next token, which begins at the cursor. -/
def token (lexer : Lexer) : Except Fault Lexer :=
  let cursor := lexer.cursor
  let c := cursor.here
  let alone := isGap (cursor.peek 1)
  if c == '%' && cursor.column == 0 then lexer.directive
  else if cursor.column == 0 && cursor.isRule '-' then lexer.boundary .documentStart
  else if cursor.column == 0 && cursor.isRule '.' then lexer.boundary .documentEnd
  else if c == '[' then lexer.openBracket .flowSequenceStart
  else if c == '\x7b' then lexer.openBracket .flowMappingStart
  else if c == ']' then lexer.closeBracket .flowSequenceEnd
  else if c == '\x7d' then lexer.closeBracket .flowMappingEnd
  else if c == ',' then lexer.comma
  else if c == '-' && alone then lexer.dash
  else if c == '?' && (lexer.inFlow || alone) then lexer.question
  else if c == ':' && (lexer.inFlow || alone) then lexer.colon
  else if c == '*' then
    lexer.nodePart fun start => start.anchorName.map fun found => (.alias found.1, found.2)
  else if c == '&' then
    lexer.nodePart fun start => start.anchorName.map fun found => (.anchor found.1, found.2)
  else if c == '!' then
    lexer.nodePart fun start => start.writtenTag.map fun found => (.tag found.1, found.2)
  else if (c == '|' || c == '>') && !lexer.inFlow then lexer.block
  else if c == '\'' || c == '"' then
    lexer.nodePart fun start => start.quotedScalar.map fun found => (.scalar found.1 false, found.2)
  else if lexer.beginsPlain then lexer.plain
  else .error .malformed

/-- End the last document. -/
def finish (lexer : Lexer) : Except Fault Lexer :=
  (lexer.unwind (-1)).dropCandidate

/-- All tokens from here on, and the fault that ends them, if one does; `fuel` bounds their number. -/
def run : (fuel : Nat) → Lexer → Array Token × Option Fault
  | 0, lexer => (lexer.tokens, some .malformed)
  | fuel + 1, lexer =>
      let ready := lexer.toNextToken
      match ready.dropStale with
      | .error fault => (lexer.tokens, some fault)
      | .ok fresh =>
          let unwound := fresh.unwind fresh.cursor.column
          if unwound.cursor.here == nul then
            match unwound.finish with
            | .error fault => (unwound.tokens, some fault)
            | .ok done => (done.tokens, none)
          else
            match unwound.token with
            | .error fault => (unwound.tokens, some fault)
            | .ok next => run fuel next

end Lexer

/-- Whether a character may stand in a text of this format. -/
def isAccepted (c : Char) : Bool :=
  let n := c.toNat
  n == 0x09 || n == 0x0A || n == 0x0D || (0x20 ≤ n && n ≤ 0x7E) || n == 0x85 ||
    (0xA0 ≤ n && n ≤ 0xD7FF) || (0xE000 ≤ n && n ≤ 0xFFFD) || 0x10000 ≤ n

/-- The tokens of a text, and the fault that ends them, if one does. -/
def tokens (text : Text) : Array Token × Option Fault :=
  if text.all isAccepted then Lexer.run (text.length + 1) { cursor := ⟨text, 0, 0, 0⟩ }
  else (#[], some .malformed)

end Splice.Yaml
