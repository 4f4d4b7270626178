import Splice.Proofs.Render.Legend
import Splice.Proofs.Render.Painting
import Splice.Proofs.Style.Screen

namespace Splice

/-!
# Segments on a screen

What is written for a terminal shows the characters of the segments, each with the codes of
its own segment, although neighbours that are drawn alike are written as one
(`read?_painted`).  All that a segment can be is listed once (`Segment.Made`); so as long as the
texts that go into a rendering hold no line feed, its line feeds are all in segments without a
style (`clean_of_mem_debug`).
-/

/-- A text that a screen shows on one line, and that begins no sequence. -/
structure Text.Plain (t : Text) : Prop where
  noEscape : Style.escape ∉ t
  noFeed : '\n' ∉ t

instance (t : Text) : Decidable t.Plain :=
  decidable_of_iff (Style.escape ∉ t ∧ '\n' ∉ t)
    ⟨fun both => ⟨both.1, both.2⟩, fun plain => ⟨plain.noEscape, plain.noFeed⟩⟩

theorem Text.Plain.append
    {front back : Text}
    (frontPlain : front.Plain)
    (backPlain : back.Plain) :
    Plain (front ++ back) where
  noEscape member :=
    (List.mem_append.mp member).elim frontPlain.noEscape backPlain.noEscape
  noFeed member :=
    (List.mem_append.mp member).elim frontPlain.noFeed backPlain.noFeed

namespace Render

open Style (Cell Screen)

section Cells

variable {system : ColourSystem}

/-- The characters of a segment, each with the codes of the segment. -/
def Segment.cells (system : ColourSystem) (segment : Segment Style) : List Cell :=
  segment.text.map fun c =>
    ⟨c, match segment.ink with
      | none => []
      | some style => style.parameters system⟩

/-- What a screen shows of some segments. -/
def cells (system : ColourSystem) (segments : List (Segment Ink)) : List Cell :=
  segments.flatMap fun segment => segment.styled.cells system

/-- The cells of some segments show the segments' characters. -/
theorem map_char_cells
    (system : ColourSystem)
    (segments : List (Segment Ink)) :
    (cells system segments).map Cell.char = segmentsText segments := by
  simp [cells, Segment.cells, segmentsText, List.map_flatMap, Segment.styled, Function.comp_def]

/-- Segments that are drawn alike are shown as one of both their texts. -/
theorem cells_append_of_drawnAlike
    {left right : Segment Ink}
    (alike : drawnAlike left.ink right.ink = true) :
    Segment.cells system (Segment.styled ⟨left.text ++ right.text, left.ink⟩) =
      left.styled.cells system ++ right.styled.cells system := by
  rcases left with ⟨leftText, leftInk⟩
  rcases right with ⟨rightText, rightInk⟩
  cases leftInk with
  | none =>
      cases rightInk with
      | none => exact List.map_append
      | some ink => cases alike
  | some leftInk =>
      cases rightInk with
      | none => cases alike
      | some rightInk =>
          have same : leftInk.style = rightInk.style := eq_of_beq alike
          simp [Segment.cells, Segment.styled, same]

/-- Joining a segment to those behind it changes no cell. -/
theorem cells_joinAfter
    (last : Segment Ink)
    (segments : List (Segment Ink)) :
    cells system (joinAfter last segments) = cells system (last :: segments) := by
  induction segments generalizing last with
  | nil => rfl
  | cons segment rest inductionHypothesis =>
      simp only [joinAfter]
      split
      · next alike =>
          rw [inductionHypothesis]
          simp [cells, cells_append_of_drawnAlike alike]
      · exact congrArg (last.styled.cells system ++ ·) (inductionHypothesis segment)

/-- Joining neighbours does not show. -/
theorem cells_joined
    (segments : List (Segment Ink)) :
    cells system (joined segments) = cells system segments := by
  cases segments with
  | nil => rfl
  | cons first rest => exact cells_joinAfter first rest

/-- A plain segment is read as its own cells, and the screen is at rest behind it. -/
theorem read?_segment
    {segment : Segment Style}
    (plain : Style.escape ∉ segment.text)
    (shown : List Cell) :
    (Screen.atRest shown).read? (segment.painted system) =
      some (.atRest (shown ++ segment.cells system)) := by
  rcases segment with ⟨text, ink⟩
  cases ink with
  | none => exact Screen.read?_of_not_escape plain [] shown
  | some style => exact Style.read?_render system style plain shown

/-- Plain segments are read one by one as their cells. -/
theorem read?_segments
    {segments : List (Segment Ink)}
    (plain : ∀ segment ∈ segments, Style.escape ∉ segment.text)
    (shown : List Cell) :
    (Screen.atRest shown).read? (segments.flatMap fun segment => segment.styled.painted system) =
      some (.atRest (shown ++ cells system segments)) := by
  induction segments generalizing shown with
  | nil => exact congrArg (some ∘ Screen.atRest) (List.append_nil shown).symm
  | cons segment rest inductionHypothesis =>
      have first : Style.escape ∉ segment.styled.text := plain segment List.mem_cons_self
      have later := inductionHypothesis fun other member =>
        plain other (List.mem_cons_of_mem segment member)
      simp only [List.flatMap_cons, Screen.read?_append, read?_segment first, Option.bind_some,
        later, cells, List.append_assoc]

/-- Segments that spell and show the same as others are read as the cells of those. -/
theorem read?_of_same_cells
    {made segments : List (Segment Ink)}
    (spells : segmentsText made = segmentsText segments)
    (shows : cells system made = cells system segments)
    (plain : Style.escape ∉ segmentsText segments) :
    (Screen.atRest []).read? (made.flatMap fun segment => segment.styled.painted system) =
      some (.atRest (cells system segments)) := by
  rw [← spells] at plain
  have eachPlain : ∀ segment ∈ made, Style.escape ∉ segment.text :=
    fun segment member inText => plain (List.mem_flatMap.mpr ⟨segment, member, inText⟩)
  rw [← shows]
  exact read?_segments eachPlain []

/-- A screen shows the characters of the segments, each with the codes of its own segment. -/
theorem read?_painted
    {segments : List (Segment Ink)}
    (plain : Style.escape ∉ segmentsText segments) :
    (Screen.atRest []).read? (painted system segments) =
      some (.atRest (cells system segments)) :=
  read?_of_same_cells (segmentsText_joined segments) (cells_joined segments) plain

end Cells

/-- A segment that begins no sequence, with line feeds only if it has no ink. -/
structure Segment.Clean {μ : Type} (segment : Segment μ) : Prop where
  noEscape : Style.escape ∉ segment.text
  feeds : '\n' ∈ segment.text → segment.ink = none

theorem Segment.Clean.of_styled
    {segment : Segment Ink}
    (clean : segment.styled.Clean) :
    segment.Clean where
  noEscape := clean.noEscape
  feeds feed := Option.map_eq_none_iff.mp (clean.feeds feed)

/-- A style is no link, or a link to where the emphasis links to. -/
def LinksAs (tracing : Tracing) (style : Style) : Prop :=
  ∀ address, style.link = some address → tracing.boundary.link = some address

theorem LinksAs.of_none
    {tracing : Tracing}
    {style : Style}
    (noLink : style.link = none) :
    LinksAs tracing style := by
  intro address linked
  cases noLink.symm.trans linked

/-- All that a segment of a debug rendering can be. -/
inductive Segment.Made (tracing : Tracing) (document : Document) : Segment Style → Prop where
  | spaces (count : Nat) : Made tracing document ⟨List.replicate count ' ', none⟩
  | feeds (count : Nat) : Made tracing document ⟨List.replicate count '\n', none⟩
  | text
      {text : Text}
      (among : text ∈ document.texts)
      {style : Style}
      (links : LinksAs tracing style) :
      Made tracing document ⟨text, some style⟩
  | title
      {style : Style}
      (links : LinksAs tracing style) :
      Made tracing document ⟨tracing.legendTitle ++ [':'], some style⟩
  | location
      {token : Token}
      (among : token ∈ document.held)
      {style : Style}
      (links : LinksAs tracing style) :
      Made tracing document ⟨token.location, some style⟩

section Making

variable {tracing : Tracing} {document : Document} {segment : Segment Style}

/-- A break is made by the renderer and not by the document. -/
theorem made_of_mem_breaks
    {count : Nat}
    (member : segment ∈ breaks count) :
    segment.Made tracing document := by
  unfold breaks at member
  split at member
  · cases member
  · rw [List.mem_singleton.mp member]
    exact .feeds count

/-- The padding of a line is made by the renderer and not by the document. -/
theorem made_of_mem_paddedLine
    {column : Nat}
    (member : segment ∈ paddedLine column) :
    segment.Made tracing document := by
  unfold paddedLine at member
  split at member
  · cases member
  · rw [List.mem_singleton.mp member]
    exact .spaces column

/-- What the collapsed lines show was made of the document's texts. -/
theorem made_of_mem_collapseStyled
    {spacing : Spacing}
    {lines : List StyledLine}
    (texts : ∀ line ∈ lines, ∀ stretch ∈ line.stretches,
      stretch.text ∈ document.texts ∧ LinksAs tracing stretch.style)
    (member : segment ∈ collapseStyled spacing lines) :
    segment.Made tracing document := by
  rcases List.mem_append.mp member with inStack | inLastBreak
  · rcases mem_pile inStack with ⟨⟨line, place⟩, kept, onLine⟩ | ⟨upper, lower, inGap⟩
    · rcases List.mem_append.mp onLine with inPadding | inStretch
      · exact made_of_mem_paddedLine inPadding
      · rcases List.mem_map.mp inStretch with ⟨stretch, there, rfl⟩
        have among : line ∈ lines :=
          List.fst_mem_of_mem_zipIdx (List.mem_of_mem_filter kept)
        rcases texts line among stretch there with ⟨fromDocument, links⟩
        exact .text fromDocument links
    · exact made_of_mem_breaks inGap
  · exact made_of_mem_breaks inLastBreak

/-- What the legend shows was made of its title and the places held. -/
theorem made_of_mem_legend
    {scheme : Scheme}
    (noLink : ∀ token, (scheme.colours token).link = none)
    {places : List Token}
    (held : ∀ token ∈ places, token ∈ document.held)
    (member : segment ∈ scheme.legend tracing.legendTitle places) :
    segment.Made tracing document := by
  rcases List.mem_append.mp member with inEntries | last
  · rcases List.mem_cons.mp inEntries with rfl | inEntry
    · exact .title (.of_none rfl)
    · rcases List.mem_flatMap.mp inEntry with ⟨token, among, onLine⟩
      rcases List.mem_cons.mp onLine with rfl | location
      · exact .feeds 1
      · rw [List.mem_singleton.mp location]
        exact .location (held token among) (.of_none (noLink token))
  · rw [List.mem_singleton.mp last]
    exact .feeds 1

/-- Whatever is rendered was made of the document, the legend's title and the places held. -/
theorem made_of_mem_debug
    {spacing : Spacing}
    {registry : Registry}
    {shelf : Shelf}
    {segments : List (Segment Ink)}
    (sound : shelf.Sound)
    (rendered : (debug spacing tracing registry shelf document).segments = .ok segments)
    {segment : Segment Ink}
    (member : segment ∈ segments) :
    segment.styled.Made tracing document := by
  rcases styled_debug_of_grown sound rendered (List.prefix_refl _) with
    ⟨body, seen, rfl, styled, listed⟩
  rcases List.mem_append.mp member with inBodyOrGap | inLegend
  · rcases List.mem_append.mp inBodyOrGap with inBody | inGap
    · have inLayout : segment.styled ∈ body.map Segment.styled := List.mem_map_of_mem inBody
      rw [styled] at inLayout
      apply made_of_mem_collapseStyled _ inLayout
      intro line laid stretch onLine
      refine ⟨?_, fun address =>
        Scheme.link_of_mem_layout (fun token => Palette.link_style _) laid onLine⟩
      refine Scheme.holds_of_mem_layout (P := fun stretch => stretch.text ∈ document.texts) ?_
        laid onLine
      refine (document.everyLevel_of_texts fun _ among => among).mono ?_
      intro inner hold outside depth index operation text here writes
      exact hold operation (List.mem_of_getElem? here) text writes
    · rw [eq_feed_of_mem_legendGap inGap]
      exact .feeds 1
  · have inStyled : segment.styled ∈ (legend tracing seen).map Segment.styled :=
      List.mem_map_of_mem inLegend
    rw [map_styled_legend listed] at inStyled
    apply made_of_mem_legend (fun token => Palette.link_style _) _ inStyled
    intro token among
    rw [Document.places_eq] at among
    exact mem_of_mem_eraseDupsBy among

/-- What holds of spaces, line feeds and all texts that go into a rendering, its text has. -/
theorem Segment.Made.chars
    {P : Char → Prop}
    (space : P ' ')
    (feed : P '\n')
    (colon : P ':')
    (texts : ∀ text ∈ document.texts, ∀ c ∈ text, P c)
    (title : ∀ c ∈ tracing.legendTitle, P c)
    (locations : ∀ token ∈ document.held, ∀ c ∈ token.location, P c)
    (made : segment.Made tracing document) :
    ∀ c ∈ segment.text, P c := by
  intro c member
  cases made with
  | spaces count => exact List.eq_of_mem_replicate member ▸ space
  | feeds count => exact List.eq_of_mem_replicate member ▸ feed
  | text among => exact texts _ among c member
  | title =>
      rcases List.mem_append.mp member with inTitle | last
      · exact title c inTitle
      · exact List.mem_singleton.mp last ▸ colon
  | location among => exact locations _ among c member

/-- Every link of a rendering is one of the emphasis. -/
theorem Segment.Made.links
    (made : segment.Made tracing document)
    {style : Style}
    (drawn : segment.ink = some style) :
    LinksAs tracing style := by
  cases made with
  | spaces | feeds => cases drawn
  | text among links => exact Option.some.inj drawn ▸ links
  | title links => exact Option.some.inj drawn ▸ links
  | location among links => exact Option.some.inj drawn ▸ links

/-- A segment made of plain texts is clean. -/
theorem Segment.Made.clean
    (made : segment.Made tracing document)
    (plainTexts : ∀ text ∈ document.texts, text.Plain)
    (plainTitle : tracing.legendTitle.Plain)
    (plainLocations : ∀ token ∈ document.held, token.location.Plain) :
    segment.Clean := by
  have ofSpaces (count : Nat) {c : Char} (noEscape : c ≠ Style.escape) :
      Segment.Clean (⟨List.replicate count c, none⟩ : Segment Style) :=
    ⟨fun member => noEscape (List.eq_of_mem_replicate member).symm, fun _ => rfl⟩
  have ofPlain {text : Text} (plain : text.Plain) (style : Style) :
      Segment.Clean ⟨text, some style⟩ :=
    ⟨plain.noEscape, fun feed => absurd feed plain.noFeed⟩
  have plainColon : Text.Plain [':'] := by decide
  cases made with
  | spaces count => exact ofSpaces count (by decide)
  | feeds count => exact ofSpaces count (by decide)
  | text among => exact ofPlain (plainTexts _ among) _
  | title => exact ofPlain (plainTitle.append plainColon) _
  | location among => exact ofPlain (plainLocations _ among) _

end Making

/-- What holds of the address that the emphasis links to holds of all that a rendering links to. -/
theorem addresses_debug
    {P : Text → Prop}
    {spacing : Spacing}
    {tracing : Tracing}
    {registry : Registry}
    {shelf : Shelf}
    {document : Document}
    {segments : List (Segment Ink)}
    (sound : shelf.Sound)
    (rendered : (debug spacing tracing registry shelf document).segments = .ok segments)
    (holds : ∀ address, tracing.boundary.link = some address → P address) :
    ∀ segment ∈ segments.map Segment.styled, ∀ style, segment.ink = some style →
      ∀ address, style.link = some address → P address := by
  intro segment member style drawn address linked
  rcases List.mem_map.mp member with ⟨source, among, rfl⟩
  exact holds address ((made_of_mem_debug sound rendered among).links drawn address linked)

/-- As long as the emphasis is no link, no segment of a rendering is one. -/
theorem unlinked_debug
    {spacing : Spacing}
    {tracing : Tracing}
    {registry : Registry}
    {shelf : Shelf}
    {document : Document}
    {segments : List (Segment Ink)}
    (sound : shelf.Sound)
    (rendered : (debug spacing tracing registry shelf document).segments = .ok segments)
    (noLink : tracing.boundary.link = none) :
    Unlinked (segments.map Segment.styled) := by
  intro segment member style drawn
  refine Option.eq_none_iff_forall_ne_some.mpr fun address linked => ?_
  refine addresses_debug (P := fun _ => False) sound rendered ?_ segment member style drawn
    address linked
  intro other emphasis
  cases noLink.symm.trans emphasis

/-- Where no text that goes into a rendering holds a line feed, all of them are without ink. -/
theorem clean_of_mem_debug
    {spacing : Spacing}
    {tracing : Tracing}
    {registry : Registry}
    {shelf : Shelf}
    {document : Document}
    {segments : List (Segment Ink)}
    (sound : shelf.Sound)
    (rendered : (debug spacing tracing registry shelf document).segments = .ok segments)
    (plainTexts : ∀ text ∈ document.texts, text.Plain)
    (plainTitle : tracing.legendTitle.Plain)
    (plainLocations : ∀ token ∈ document.held, token.location.Plain)
    {segment : Segment Ink}
    (member : segment ∈ segments) :
    segment.Clean :=
  .of_styled ((made_of_mem_debug sound rendered member).clean plainTexts plainTitle plainLocations)

/-- A line feed of segments that keep it without ink is shown with nothing in force. -/
theorem inForce_of_feed
    {segments : List (Segment Ink)}
    (clean : ∀ segment ∈ segments, segment.Clean)
    {system : ColourSystem}
    {cell : Cell}
    (member : cell ∈ cells system segments)
    (feed : cell.char = '\n') :
    cell.inForce = [] := by
  rcases List.mem_flatMap.mp member with ⟨⟨text, ink⟩, among, inSegment⟩
  rcases List.mem_map.mp inSegment with ⟨c, inText, rfl⟩
  cases feed
  have noInk : ink = none := (clean _ among).feeds inText
  rw [noInk]
  rfl

end Render

end Splice
