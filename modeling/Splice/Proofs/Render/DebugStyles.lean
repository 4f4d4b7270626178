import Splice.Proofs.Render.DebugInks

namespace Splice

/-!
# Debug rendering keeps to the scheme

A walk with the debug pen saves its ink around a block, overwrites it at a marker, and
drops a line that is blank together with its segments.  What it writes is the styled
layout under the spacing rules: the style of a text is the one that its position asks for,
and a line that is dropped leaves no trace in the styles of others.  The sheet follows the
styled page (`Wears`) while the hand draws in the style of the position (`Drawn`).
-/

namespace Render

/-- A segment with the style of its ink. -/
def Segment.styled (segment : Segment Ink) : Segment Style :=
  ⟨segment.text, segment.ink.map Ink.style⟩

@[simp] theorem map_styled_breaks
    (count : Nat) :
    (breaks count).map Segment.styled = breaks count := by
  unfold breaks
  split <;> rfl

@[simp] theorem map_styled_paddedLine
    (column : Nat) :
    (paddedLine column).map Segment.styled = paddedLine column := by
  unfold paddedLine
  split <;> rfl

/-- A sheet that follows a page and wears its styles. -/
structure Wears
    (spacing : Spacing)
    (page : StyledPage)
    (sheet : Sheet Ink) : Prop where
  follows : Follows spacing page.plain sheet
  line : sheet.line.map Segment.styled = page.line.segments
  output :
    sheet.output.map Segment.styled =
      stackedStyled spacing (keptBy StyledLine.text page.closed)

namespace Wears

variable {spacing : Spacing} {page : StyledPage} {sheet : Sheet Ink}

theorem of_start : Wears spacing .blank .start where
  follows := .of_start
  line := rfl
  output := rfl

theorem write
    (wears : Wears spacing page sheet)
    {stretch : Stretch}
    {ink : Ink}
    (inkStyle : ink.style = stretch.style) :
    Wears spacing (page.write stretch) (sheet.write stretch.text ink) where
  follows := by
    rw [StyledPage.plain_write]
    exact wears.follows.write stretch.text ink
  line := by
    simp [Sheet.write, StyledPage.write, StyledLine.segments, wears.line, Segment.styled, inkStyle]
  output := wears.output

/-- Finishing a line adds it with its styles and the breaks before it, or drops it whole. -/
theorem output_flush
    (wears : Wears spacing page sheet)
    (column : Nat) :
    (sheet.flush spacing column).output.map Segment.styled =
      stackedStyled spacing (keptBy StyledLine.text page.lines) := by
  have lineText : sheet.lineText = page.line.text := wears.follows.line
  have settled := wears.follows.settled
  unfold Sheet.flush StyledPage.lines
  cases blank : Text.allBlank sheet.lineText with
  | true =>
      rw [lineText] at blank
      rw [keptBy_append_blank _ _ blank]
      exact wears.output
  | false =>
      have solid := blank
      rw [lineText] at solid
      rw [keptBy_append_solid _ _ solid]
      simp only [Bool.false_eq_true, ↓reduceIte, Sheet.emit, List.map_append,
        feeds_eq_breaks, map_styled_breaks, wears.output, wears.line]
      have sameLast :
          (kept page.plain.closed).getLast? =
            (keptBy StyledLine.text page.closed).getLast?.map fun line =>
              (line.1.text, line.2) := by
        rw [← List.getLast?_map, ← kept_text]
        rfl
      cases ends : (keptBy StyledLine.text page.closed).getLast? with
      | none =>
          rw [ends] at sameLast
          have empty : keptBy StyledLine.text page.closed = [] := List.getLast?_eq_none_iff.mp ends
          have noBreaks : sheet.breaksBefore spacing sheet.lineText = 0 := by
            simp [Sheet.breaksBefore, (settled.start sameLast).1]
          simp [noBreaks, empty, stackedStyled, pile, breaks]
      | some last =>
          rw [ends] at sameLast
          rw [stackedStyled, pile_append ends, settled.breaksBefore_eq sameLast, lineText]
          simp [gapStyled, StyledPage.plain]

theorem breakLine
    (wears : Wears spacing page sheet)
    (base : Nat) :
    Wears spacing (page.breakLine base) (sheet.breakLine spacing base) where
  follows := by
    rw [StyledPage.plain_breakLine]
    exact wears.follows.breakLine base
  line := by
    have padded : (sheet.flush spacing base).line.map Segment.styled = paddedLine base :=
      map_styled_paddedLine base
    unfold Sheet.breakLine
    dsimp only
    split <;> simpa [StyledPage.breakLine, StyledLine.segments] using padded
  output := by
    unfold Sheet.breakLine
    dsimp only
    split <;> exact wears.output_flush base

theorem finish
    (wears : Wears spacing page sheet) :
    (sheet.finish spacing).output.map Segment.styled = collapseStyled spacing page.lines := by
  have lineText : sheet.lineText = page.line.text := wears.follows.line
  have sameLines :
      kept (page.plain.closed ++ [sheet.lineText]) = kept (page.lines.map StyledLine.text) := by
    simp [StyledPage.lines, StyledPage.plain, lineText]
  have sameLength : page.plain.closed.length + 1 = page.lines.length := by
    simp [StyledPage.lines, StyledPage.plain]
  rw [wears.follows.settled.output_finish, sameLines, sameLength, collapseStyled,
    ← wears.output_flush 0]
  rcases lastBreak_cases spacing page.lines.length (kept (page.lines.map StyledLine.text)) with
    none | one
  · simp [none, breaks]
  · simp [one]

end Wears

/-- A walk past an operation that splices a document in walks its nodes in a block. -/
theorem walkAll_of_spliced
    {σ μ : Type}
    [Hooks μ]
    {pen : Pen σ μ}
    {spacing : Spacing}
    {base : Nat}
    {desk done : Desk σ μ}
    {document inner : Document}
    {index : Nat}
    {operation : Operation}
    (here : document[index]? = some operation)
    (spliced : document.spliced? index operation = some inner)
    (walked : walkAll pen spacing base desk (document.nodes.drop index) = .ok done) :
    ∃ inside,
      walkAll pen spacing desk.sheet.column { desk with hand := pen.enter desk.hand }
          inner.nodes = .ok inside ∧
      walkAll pen spacing base { inside with hand := pen.leave desk.hand inside.hand }
          (document.nodes.drop (index + 1)) = .ok done := by
  rcases Document.nodes_of_spliced here spliced with block | again
  · rw [drop_of_getElem? block] at walked
    rcases walkAll_cons_eq_ok_iff.mp walked with ⟨next, walkedBlock, walkedRest⟩
    rcases (walk_block_eq_ok_iff base).mp walkedBlock with ⟨inside, walkedInside, rfl⟩
    exact ⟨inside, walkedInside, walkedRest⟩
  · rw [drop_of_getElem? again] at walked
    rcases walkAll_cons_eq_ok_iff.mp walked with ⟨next, walkedAgain, walkedRest⟩
    rcases (walk_block_eq_ok_iff base).mp walkedAgain with ⟨inside, walkedInside, rfl⟩
    exact ⟨inside, walkedInside, walkedRest⟩

/-- A desk whose sheet wears the styles of a page and whose hand draws in a style. -/
structure Drawn
    (spacing : Spacing)
    (scheme : Scheme)
    (style : Style)
    (depth : Nat)
    (page : StyledPage)
    (desk : Desk Hand Ink) : Prop where
  wears : Wears spacing page desk.sheet
  draws : desk.hand.Draws scheme style depth

namespace Drawn

variable
  {spacing : Spacing} {tracing : Tracing} {final : Registry} {outside : Style} {depth : Nat}
  {document : Document} {page : StyledPage} {index : Nat} {desk done : Desk Hand Ink}

/-- An operation that splices nothing in is drawn in the style of its position. -/
theorem put
    (drawn :
      Drawn spacing (.of tracing final)
        ((Scheme.of tracing final).styleAt outside depth document index) depth page desk)
    {operation : Operation}
    (here : document[index]? = some operation)
    (notSpliced : document.spliced? index operation = none)
    {node : Node}
    (there : document.nodes[index]? = some node)
    (base : Nat)
    (walked : walk (debugPen tracing) spacing base desk node = .ok done)
    (grown : done.hand.registry.slots <+: final.slots) :
    Drawn spacing (.of tracing final)
      ((Scheme.of tracing final).styleAt outside depth document (index + 1)) depth
      (page.put base ((Scheme.of tracing final).styleAt outside depth document index) depth
        operation)
      done := by
  have made := Document.nodes_getElem? document index
  rw [here, there] at made
  have sameStyle
      (notMarker : ∀ token, operation ≠ .marker token) :
      (Scheme.of tracing final).styleAt outside depth document (index + 1) =
        (Scheme.of tracing final).styleAt outside depth document index := by
    apply Scheme.styleAt_succ_of_not_marker
    intro token marker
    exact notMarker token (Option.some.inj (here.symm.trans marker))
  cases operation with
  | newline =>
      cases made
      cases walked
      rw [sameStyle (by simp)]
      exact ⟨drawn.wears.breakLine base, drawn.draws⟩
  | fixed text | owned text =>
      cases made
      cases walked
      rw [sameStyle (by simp)]
      exact ⟨drawn.wears.write drawn.draws.ink, drawn.draws⟩
  | marker token =>
      cases made
      cases walked
      rw [Scheme.styleAt_succ_of_marker here]
      exact ⟨drawn.wears, drawn.draws.mark token grown⟩
  | block inner => cases notSpliced
  | back offset =>
      cases looked : Document.resolve? document index offset with
      | ok inner =>
          simp only [Document.spliced?, looked, Except.toOption, reduceCtorEq] at notSpliced
      | error fault =>
          rcases Document.nodes_of_malformed here looked with ⟨malformed, _, broken⟩
          rw [there] at broken
          cases broken
          cases walked

/-- A walk of a document from a position on draws its styled layout from there on. -/
theorem layFrom
    {base : Nat}
    (drawn :
      Drawn spacing (.of tracing final)
        ((Scheme.of tracing final).styleAt outside depth document index) depth page desk)
    (walked :
      walkAll (debugPen tracing) spacing base desk (document.nodes.drop index) = .ok done)
    (grown : done.hand.registry.slots <+: final.slots) :
    ∃ style,
      Drawn spacing (.of tracing final) style depth
        ((Scheme.of tracing final).layFrom outside depth document base page index) done := by
  fun_induction Scheme.layFrom (.of tracing final) outside depth document base page index
    generalizing desk done with
  | case1 outside depth document base page index inside inner spliced innerDrawn restDrawn =>
      have here : document[index]? = some document[index] := List.getElem?_eq_getElem inside
      rcases walkAll_of_spliced here spliced walked with ⟨last, walkedInner, walkedRest⟩
      have innerGrown : last.hand.registry.slots <+: final.slots :=
        (Hand.Gains.of_walkAll walkedRest).slots.trans grown
      have entered :
          Drawn spacing (.of tracing final)
            ((Scheme.of tracing final).styleAt
              ((Scheme.of tracing final).styleAt outside depth document index) (depth + 1)
              inner 0)
            (depth + 1) page { desk with hand := desk.hand.enter tracing } :=
        ⟨drawn.wears, drawn.draws.enter⟩
      rw [drawn.wears.follows.column] at walkedInner
      rcases innerDrawn entered walkedInner innerGrown with ⟨innerStyle, insideDrawn⟩
      have left := drawn.draws.leave insideDrawn.draws
      rw [← Scheme.styleAt_succ_of_not_marker] at left
      · have leftDrawn : Drawn _ _ _ _ _ ⟨last.sheet, desk.hand.leave last.hand⟩ :=
          ⟨insideDrawn.wears, left⟩
        exact restDrawn leftDrawn walkedRest grown
      · intro token marker
        rw [Option.some.inj (here.symm.trans marker)] at spliced
        cases spliced
  | case2 outside depth document base page index inside notSpliced restDrawn =>
      have here : document[index]? = some document[index] := List.getElem?_eq_getElem inside
      rcases Document.lay_of_not_spliced here notSpliced with ⟨node, there, _⟩
      rw [drop_of_getElem? there] at walked
      rcases walkAll_cons_eq_ok_iff.mp walked with ⟨next, walkedNode, walkedRest⟩
      have nextGrown := (Hand.Gains.of_walkAll walkedRest).slots.trans grown
      exact restDrawn (drawn.put here notSpliced there base walkedNode nextGrown) walkedRest grown
  | case3 outside depth document base page index outsideRow =>
      rw [List.drop_eq_nil_of_le (by simpa using outsideRow)] at walked
      cases walked
      exact ⟨_, drawn⟩

end Drawn

/--
The body of a debug rendering is the styled layout of the document under the spacing rules
in the colours of any later state of the registry; the legend shows each place in its own
colour without the emphasis.
-/
theorem styled_debug_of_grown
    {spacing : Spacing}
    {tracing : Tracing}
    {registry final : Registry}
    {shelf : Shelf}
    {document : Document}
    {segments : List (Segment Ink)}
    (sound : shelf.Sound)
    (rendered : (debug spacing tracing registry shelf document).segments = .ok segments)
    (grown :
      (debug spacing tracing registry shelf document).registry.slots <+: final.slots) :
    ∃ body seen,
      segments = withLegend tracing seen body ∧
      body.map Segment.styled =
        collapseStyled spacing ((Scheme.of tracing final).layout document) ∧
      seen.map (fun entry => (entry.1, entry.2.style)) =
        document.places.map fun token => (token, (Scheme.of tracing final).colours token) := by
  rcases walkDocument_of_debug rendered with ⟨done, walked, rfl⟩
  have lasting := registry_debug_eq_handAfter spacing tracing registry shelf document
  rw [walked] at lasting
  rw [lasting] at grown
  have listed := places_of_walkDocument walked
  rcases walkDocument_eq_ok_iff.mp walked with ⟨last, walkedAll, rfl⟩
  have start :
      Drawn spacing (.of tracing final)
        ((Scheme.of tracing final).styleAt Style.null 0 document 0) 0 .blank
        ⟨Sheet.start, Hand.start registry shelf⟩ :=
    ⟨.of_start, .of_start sound _ registry⟩
  rcases Drawn.layFrom start walkedAll grown with ⟨style, drawn⟩
  refine ⟨_, _, rfl, drawn.wears.finish, ?_⟩
  rw [← listed, List.map_map]
  apply List.map_congr_left
  intro entry member
  exact Prod.ext rfl (drawn.draws.seen entry member)

/--
The body of a debug rendering is the styled layout of the document under the spacing rules,
in the colours that the registry has once every place of the document has its colour; the
legend shows each place in its own colour without the emphasis.
-/
theorem styled_debug
    {spacing : Spacing}
    {tracing : Tracing}
    {registry : Registry}
    {shelf : Shelf}
    {document : Document}
    {segments : List (Segment Ink)}
    (sound : shelf.Sound)
    (rendered : (debug spacing tracing registry shelf document).segments = .ok segments) :
    (debug spacing tracing registry shelf document).registry =
      registry.colourAll document.places ∧
    ∃ body seen,
      segments = withLegend tracing seen body ∧
      body.map Segment.styled =
        collapseStyled spacing ((Scheme.after tracing registry document).layout document) ∧
      seen.map (fun entry => (entry.1, entry.2.style)) =
        document.places.map fun token =>
          (token, (Scheme.after tracing registry document).colours token) := by
  rcases walkDocument_of_debug rendered with ⟨done, walked, rfl⟩
  have gains := Hand.Gains.of_walkDocument tracing spacing
    ⟨Sheet.start, Hand.start registry shelf⟩ document
  have lasting := registry_debug_eq_handAfter spacing tracing registry shelf document
  rw [walked] at gains lasting
  have registered :
      (debug spacing tracing registry shelf document).registry =
        registry.colourAll document.places := by
    rw [lasting, ← places_of_walkDocument walked]
    exact gains.places rfl
  refine ⟨registered, ?_⟩
  rw [Scheme.after, ← registered]
  exact styled_debug_of_grown sound rendered (List.prefix_refl _)

/-- The entries of a legend show the locations of places, each in the style of its place. -/
theorem map_styled_entries
    (seen : List (Token × Ink)) :
    (seen.flatMap legendEntry).map Segment.styled =
      (seen.map fun entry => (entry.1, entry.2.style)).flatMap fun entry =>
        [⟨['\n'], none⟩, ⟨entry.1.location, some entry.2⟩] := by
  rw [List.map_flatMap, List.flatMap_map]
  rfl

/-- The styles of a rendering are those of its body and of the places in its legend. -/
theorem map_styled_withLegend_congr
    (tracing : Tracing)
    {seen otherSeen : List (Token × Ink)}
    {body otherBody : List (Segment Ink)}
    (sameBody : body.map Segment.styled = otherBody.map Segment.styled)
    (sameSeen :
      seen.map (fun entry => (entry.1, entry.2.style)) =
        otherSeen.map fun entry => (entry.1, entry.2.style)) :
    (withLegend tracing seen body).map Segment.styled =
      (withLegend tracing otherSeen otherBody).map Segment.styled := by
  have gap (drawn : List (Segment Ink)) :
      (legendGap drawn).map Segment.styled =
        match (drawn.map Segment.styled).getLast? with
        | none => []
        | some last =>
            (if last.text.getLast? == some '\n' then [] else [⟨['\n'], none⟩]) ++
              [⟨['\n'], none⟩] := by
    rw [List.getLast?_map]
    unfold legendGap
    cases drawn.getLast? with
    | none => rfl
    | some last =>
        simp only [Option.map_some, Segment.styled, List.map_append]
        split <;> rfl
  simp only [withLegend, legend, List.map_append, List.map_cons, map_styled_entries, gap,
    sameBody, sameSeen]

/--
Two renderings of a document look the same when both have the colours of one registry in the
end, whichever inks are at hand.
-/
theorem map_styled_debug_of_final
    (spacing : Spacing)
    (tracing : Tracing)
    {registry other final : Registry}
    {shelf otherShelf : Shelf}
    (sound : shelf.Sound)
    (otherSound : otherShelf.Sound)
    {document : Document}
    (grown :
      (debug spacing tracing registry shelf document).registry.slots <+: final.slots)
    (otherGrown :
      (debug spacing tracing other otherShelf document).registry.slots <+: final.slots) :
    (debug spacing tracing registry shelf document).segments.map (List.map Segment.styled) =
      (debug spacing tracing other otherShelf document).segments.map
        (List.map Segment.styled) := by
  cases stops : Node.firstFault? document.nodes with
  | some fault =>
      rw [debug_of_fault spacing tracing registry shelf stops,
        debug_of_fault spacing tracing other otherShelf stops]
  | none =>
      have resolves := Document.resolves_iff.mpr stops
      rcases debug_of_resolves spacing tracing registry shelf resolves with ⟨first, firstDrawn⟩
      rcases debug_of_resolves spacing tracing other otherShelf resolves with
        ⟨second, secondDrawn⟩
      rcases styled_debug_of_grown sound firstDrawn grown with
        ⟨body, seen, rfl, sameBody, sameSeen⟩
      rcases styled_debug_of_grown otherSound secondDrawn otherGrown with
        ⟨otherBody, otherSeen, rfl, otherSameBody, otherSameSeen⟩
      rw [firstDrawn, secondDrawn]
      exact congrArg Except.ok (map_styled_withLegend_congr tracing
        (sameBody.trans otherSameBody.symm) (sameSeen.trans otherSameSeen.symm))

/--
A document that was rendered before looks the same when it is rendered again, whichever
colours were given in between and whichever inks are at hand.
-/
theorem map_styled_debug_of_grown
    (spacing : Spacing)
    (tracing : Tracing)
    {registry later : Registry}
    {shelf laterShelf : Shelf}
    (sound : shelf.Sound)
    (laterSound : laterShelf.Sound)
    {document : Document}
    (grown :
      (debug spacing tracing registry shelf document).registry.slots <+: later.slots) :
    (debug spacing tracing registry shelf document).segments.map (List.map Segment.styled) =
      (debug spacing tracing later laterShelf document).segments.map
        (List.map Segment.styled) := by
  have lasting := slots_debug spacing tracing later laterShelf document
  exact map_styled_debug_of_final spacing tracing sound laterSound (grown.trans lasting)
    (List.prefix_refl _)

/-- Renderings that begin with the same colours look the same. -/
theorem map_styled_debug_of_coloured
    (spacing : Spacing)
    (tracing : Tracing)
    {registry other : Registry}
    {shelf otherShelf : Shelf}
    (sound : shelf.Sound)
    (otherSound : otherShelf.Sound)
    (inOrder : registry.InOrder)
    (otherInOrder : other.InOrder)
    (same : registry.coloured = other.coloured)
    (document : Document) :
    (debug spacing tracing registry shelf document).segments.map (List.map Segment.styled) =
      (debug spacing tracing other otherShelf document).segments.map
        (List.map Segment.styled) := by
  have sameFinal :
      (debug spacing tracing other otherShelf document).registry.slots =
        (debug spacing tracing registry shelf document).registry.slots := by
    rw [registry_debug spacing tracing, registry_debug spacing tracing]
    apply (otherInOrder.colourAll document.met).slots_eq (inOrder.colourAll document.met)
    rw [inOrder.coloured_colourAll, otherInOrder.coloured_colourAll, same]
  exact map_styled_debug_of_final spacing tracing sound otherSound (List.prefix_refl _)
    (sameFinal ▸ List.prefix_refl _)

end Render

end Splice
