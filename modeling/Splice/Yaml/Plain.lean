import Splice.Yaml.Quoted

namespace Splice.Yaml

/-!
# Plain scalars

A scalar without quotes goes on until a comment, a colon before a gap, or a
line that is indented too little; between brackets also until a bracket or a
comma.  Its line ends fold as those of a quoted scalar do.
-/

/-- What stands between two runs of a plain scalar. -/
structure PlainGap where
  /-- What the scalar keeps of the gap; nothing, if the scalar ends here. -/
  text : Text
  /-- Whether the gap holds a line end. -/
  broken : Bool
  cursor : Cursor

/-- How many characters at the front of a text belong to a plain scalar. -/
def plainLength (inFlow : Bool) : Text → Nat
  | [] => 0
  | c :: rest =>
      let following := rest.headD nul
      let closes := isGap following || (inFlow && ",[]\x7b\x7d".toList.contains following)
      if isGap c || (c == ':' && closes) || (inFlow && ",?[]\x7b\x7d".toList.contains c) then 0
      else plainLength inFlow rest + 1

namespace Cursor

/-- Further line ends of a gap; nothing, when a document begins or ends behind one of them. -/
def plainBreaks : (fuel : Nat) → Cursor → Option Text × Cursor
  | 0, cursor => (some [], cursor)
  | fuel + 1, cursor =>
      let solid := cursor.skipSpaces
      if isBreak solid.here then
        let (first, behind) := solid.lineBreak
        if behind.isBoundary then (none, behind)
        else
          let (others, last) := plainBreaks fuel behind
          (others.map (first ++ ·), last)
      else (some [], solid)

/-- The gap at the cursor. -/
def plainGap (cursor : Cursor) : PlainGap :=
  let (spaces, stop) := cursor.span (· == ' ')
  if isBreak stop.here then
    let (first, behind) := stop.lineBreak
    if behind.isBoundary then ⟨[], true, behind⟩
    else
      match plainBreaks (behind.rest.length + 1) behind with
      | (none, last) => ⟨[], true, last⟩
      | (some further, last) => ⟨foldedBreak first further, true, last⟩
  else ⟨spaces, false, stop⟩

/--
The runs of a plain scalar behind `gap`, whose lines are indented by at least
`indent`; the answer is the text, whether a line end was the last thing met, and
the cursor.
-/
def plainRuns (inFlow : Bool) (indent : Nat) : (fuel : Nat) → PlainGap → Text × Bool × Cursor
  | 0, gap => ([], gap.broken, gap.cursor)
  | fuel + 1, gap =>
      let count := plainLength inFlow gap.cursor.rest
      if gap.cursor.here == '#' || count = 0 then ([], gap.broken, gap.cursor)
      else
        let run := gap.text ++ gap.cursor.rest.take count
        let following := (gap.cursor.skip count).plainGap
        if following.text.isEmpty || following.cursor.here == '#' ||
            (!inFlow && following.cursor.column < indent) then
          (run, following.broken, following.cursor)
        else
          let (others, broken, last) := plainRuns inFlow indent fuel following
          (run ++ others, broken, last)

/-- The plain scalar at the cursor, whether a line end was the last thing met, and the cursor behind. -/
def plainScalar (inFlow : Bool) (indent : Nat) (cursor : Cursor) : Text × Bool × Cursor :=
  plainRuns inFlow indent (cursor.rest.length + 1) ⟨[], false, cursor⟩

end Cursor

end Splice.Yaml
