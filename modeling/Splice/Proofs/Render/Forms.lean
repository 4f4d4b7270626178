import Splice.Proofs.Render.Showing
import Splice.Proofs.Style.Selections
import Splice.Render.Spans

namespace Splice.Render

/-!
# Other forms of some segments

What is written for a terminal is the text of the segments with sequences that select styles,
and with those of links where the emphasis is one (`withoutSelections_ansi`).

In a styled text, every span lies over what is left of one segment, and the spans come in the
order of their segments.  So reading the spans back at every character gives the style of the
segment that the character comes from, and nothing where that segment decides nothing
(`shows_styledText`).
-/

/-- Characters of the texts that go into a rendering are all that its segments are made of. -/
theorem holds_of_mem_segmentsText
    {P : Char → Prop}
    (space : P ' ')
    (feed : P '\n')
    (colon : P ':')
    {spacing : Spacing}
    {tracing : Tracing}
    {registry : Registry}
    {shelf : Shelf}
    {document : Document}
    (texts : ∀ text ∈ document.texts, ∀ c ∈ text, P c)
    (title : ∀ c ∈ tracing.legendTitle, P c)
    (locations : ∀ token ∈ document.held, ∀ c ∈ token.location, P c)
    {segments : List (Segment Ink)}
    (sound : shelf.Sound)
    (rendered : (debug spacing tracing registry shelf document).segments = .ok segments) :
    ∀ c ∈ segmentsText segments, P c := by
  intro c member
  rcases List.mem_flatMap.mp member with ⟨segment, among, inSegment⟩
  exact (made_of_mem_debug sound rendered among).chars space feed colon texts title locations c
    inSegment

/-- The text of a segment between the sequences of its link, if it is one. -/
def Segment.framed (rolls : Nat → Nat) (segment : Segment Ink) : Text :=
  match segment.ink with
  | none => segment.text
  | some ink =>
      if segment.text.isEmpty then []
      else Style.linked (rolls ink.number) ink.style.link segment.text

section Writing

variable
  {system : ColourSystem} {rolls : Nat → Nat} {ledger : List Style} {shelf : Shelf}
  {segments : List (Segment Ink)}

/-- A segment that is no link is framed by nothing. -/
theorem Segment.framed_of_unlinked
    (rolls : Nat → Nat)
    {segment : Segment Ink}
    (noLink : ∀ style, segment.styled.ink = some style → style.link = none) :
    segment.framed rolls = segment.text := by
  rcases segment with ⟨text, ink⟩
  cases ink with
  | none => rfl
  | some ink =>
      have unlinked : ink.style.link = none := noLink ink.style rfl
      cases text <;> simp [framed, unlinked, Style.linked]

/-- What is written for one segment, without its selections, is its framed text. -/
theorem withoutSelections_write
    (booked : shelf.Booked rolls ledger)
    {ink : Ink}
    (listed : ink.ListedIn ledger)
    {text : Text}
    (plain : Style.escape ∉ text)
    (addressPlain : ∀ address, ink.style.link = some address → Style.escape ∉ address)
    (rest : Text) :
    Style.withoutSelections ((shelf.write system ink text).1 ++ rest) =
      Segment.framed rolls ⟨text, some ink⟩ ++ Style.withoutSelections rest := by
  have made : ∀ c ∈ ink.style.codeText system, Style.isSelector c = true := by
    intro c member
    simpa [Style.isSelector] using Style.made_codeText member
  cases text with
  | nil => rfl
  | cons c more =>
      rw [Shelf.text_write booked system listed (List.cons_ne_nil c more), Style.render,
        Style.withoutSelections_linked addressPlain made plain]
      rfl

theorem withoutSelections_writeAll
    (booked : shelf.Booked rolls ledger)
    (listed : ListedIn ledger segments)
    (plain : ∀ segment ∈ segments, Style.escape ∉ segment.text)
    (addressPlain : ∀ segment ∈ segments.map Segment.styled, ∀ style, segment.ink = some style →
      ∀ address, style.link = some address → Style.escape ∉ address) :
    Style.withoutSelections (writeAll system shelf segments).1 =
      segments.flatMap (Segment.framed rolls) := by
  induction segments generalizing shelf with
  | nil => exact Style.Sequences.drop_nil
  | cons segment rest inductionHypothesis =>
      rcases segment with ⟨text, ink⟩
      have textPlain := plain ⟨text, ink⟩ List.mem_cons_self
      have restPlain : ∀ other ∈ rest, Style.escape ∉ other.text :=
        fun other member => plain other (List.mem_cons_of_mem _ member)
      have listedRest : ListedIn ledger rest :=
        fun other member => listed other (List.mem_cons_of_mem _ member)
      have restAddressPlain := fun other member =>
        addressPlain other (List.mem_cons_of_mem _ member)
      cases ink with
      | none =>
          have tail := inductionHypothesis booked listedRest restPlain restAddressPlain
          have kept : Style.selections.drop (text ++ (writeAll system shelf rest).1) = _ :=
            Style.Sequences.drop_append textPlain _
          simp only [writeAll, Style.withoutSelections, List.flatMap_cons, Segment.framed] at tail ⊢
          rw [kept, tail]
      | some ink =>
          have inkListed := listed ⟨text, some ink⟩ List.mem_cons_self ink rfl
          have inkAddressPlain := addressPlain _ List.mem_cons_self ink.style rfl
          have tail := inductionHypothesis (booked.write system inkListed text) listedRest
            restPlain restAddressPlain
          simp only [writeAll, List.flatMap_cons]
          rw [withoutSelections_write booked inkListed textPlain inkAddressPlain, tail]

/-- The sequences of links frame the text, and without them the text is left. -/
theorem withoutLinks_framed
    (rolls : Nat → Nat)
    (plain : ∀ segment ∈ segments, Style.escape ∉ segment.text)
    (addressPlain : ∀ segment ∈ segments.map Segment.styled, ∀ style, segment.ink = some style →
      ∀ address, style.link = some address → Style.escape ∉ address) :
    Style.withoutLinks (segments.flatMap (Segment.framed rolls)) = segmentsText segments := by
  induction segments with
  | nil => exact Style.Sequences.drop_nil
  | cons segment rest inductionHypothesis =>
      rcases segment with ⟨text, ink⟩
      have textPlain := plain ⟨text, ink⟩ List.mem_cons_self
      have tail := inductionHypothesis
        (fun other member => plain other (List.mem_cons_of_mem _ member))
        (fun other member => addressPlain other (List.mem_cons_of_mem _ member))
      rw [List.flatMap_cons, segmentsText_cons, ← tail]
      cases ink with
      | none => exact Style.Sequences.drop_append textPlain _
      | some ink =>
          have inkAddressPlain := addressPlain _ List.mem_cons_self ink.style rfl
          cases text with
          | nil => rfl
          | cons c more => exact Style.withoutLinks_linked inkAddressPlain textPlain _

/--
Text for a terminal without the sequences that select styles is the text of the segments, with
each stretch of them that is a link between the sequences of the link; dropping those as well
leaves the text of the segments alone.
-/
theorem withoutSelections_ansi
    (booked : shelf.Booked rolls ledger)
    (listed : ListedIn ledger segments)
    (plain : Style.escape ∉ segmentsText segments)
    (addressPlain : ∀ segment ∈ segments.map Segment.styled, ∀ style, segment.ink = some style →
      ∀ address, style.link = some address → Style.escape ∉ address) :
    Style.withoutSelections (ansi system shelf segments).1 =
        (joined segments).flatMap (Segment.framed rolls) ∧
      Style.withoutLinks ((joined segments).flatMap (Segment.framed rolls)) =
        segmentsText segments := by
  rw [← segmentsText_joined] at plain ⊢
  have eachPlain : ∀ segment ∈ joined segments, Style.escape ∉ segment.text :=
    fun segment member inText => plain (List.mem_flatMap.mpr ⟨segment, member, inText⟩)
  exact ⟨withoutSelections_writeAll booked (listedIn_joined listed) eachPlain
      (styles_joined addressPlain), withoutLinks_framed _ eachPlain (styles_joined addressPlain)⟩

/-- Where nothing is a link, the text of the segments is left. -/
theorem flatMap_framed_of_unlinked
    (rolls : Nat → Nat)
    (unlinked : Unlinked (segments.map Segment.styled)) :
    (joined segments).flatMap (Segment.framed rolls) = segmentsText segments := by
  rw [← segmentsText_joined]
  apply congrArg List.flatten
  apply List.map_congr_left
  intro segment member
  exact Segment.framed_of_unlinked rolls
    (styles_joined unlinked segment.styled (List.mem_map_of_mem member))

end Writing

/-- The style of a segment, if it decides anything. -/
def Segment.tint? (segment : Segment Ink) : Option Style :=
  (segment.ink.map Ink.style).filter fun style => !style.isNull

/-- The characters of a segment that a styled text keeps, with the style of the segment. -/
def Segment.tinted (segment : Segment Ink) : List (Char × List Style) :=
  (withoutCursorControls segment.text).map fun c => (c, segment.tint?.toList)

/-- What a span lies over and the style it shows, if a segment gives a span. -/
def Segment.spanned? (segment : Segment Ink) : Option (Text × Style) :=
  if segment.text.isEmpty then none
  else segment.tint?.map fun style => (withoutCursorControls segment.text, style)

namespace StyledText

/-- What a span lies over. -/
def under (styled : StyledText) (span : Span) : Text :=
  (styled.plain.take span.stop).drop span.start

/-- The styles of the spans that lie over a position. -/
def stylesAt (styled : StyledText) (position : Nat) : List Style :=
  (styled.spans.filter fun span => span.start ≤ position ∧ position < span.stop).map Span.style

/-- The characters of a styled text, each with the styles of the spans over it. -/
def tinted (styled : StyledText) : List (Char × List Style) :=
  styled.plain.zipIdx.map fun cell => (cell.1, styled.stylesAt cell.2)

/-- A styled text shows some segments. -/
structure Shows (styled : StyledText) (segments : List (Segment Ink)) : Prop where
  plain : styled.plain = withoutCursorControls (segmentsText segments)
  tinted : styled.tinted = segments.flatMap Segment.tinted
  spans : styled.spans.map (fun span => (styled.under span, span.style)) =
    segments.filterMap Segment.spanned?
  ordered : styled.spans.Pairwise fun first second => first.stop ≤ second.start
  within : ∀ span ∈ styled.spans, span.stop ≤ styled.plain.length

/-- A styled text with more characters behind it, and one span over them if they have a style. -/
def behind (styled : StyledText) (more : Text) (style : Option Style) : StyledText where
  plain := styled.plain ++ more
  spans := styled.spans ++ (style.map fun style =>
    ⟨styled.plain.length, styled.plain.length + more.length, style⟩).toList

/-- A segment adds what it keeps, with a span over it if it gives one. -/
theorem append_eq_behind
    (styled : StyledText)
    (segment : Segment Ink) :
    ∃ style,
      styled.append segment = styled.behind (withoutCursorControls segment.text) style ∧
      segment.spanned? = style.map (withoutCursorControls segment.text, ·) ∧
      segment.tinted = (withoutCursorControls segment.text).map fun c => (c, style.toList) := by
  rcases segment with ⟨text, ink⟩
  by_cases noText : text.isEmpty
  · refine ⟨none, ?_, by simp [Segment.spanned?, noText], ?_⟩
    · cases ink <;> simp [append, behind, noText]
    · rw [List.isEmpty_iff.mp noText]
      rfl
  · refine ⟨Segment.tint? ⟨text, ink⟩, ?_, by simp [Segment.spanned?, noText], rfl⟩
    cases ink with
    | none => rfl
    | some ink =>
        by_cases null : ink.style.isNull <;>
          simp [append, behind, Segment.tint?, Option.filter, noText, null]

namespace Shows

theorem empty : Shows ⟨[], []⟩ [] where
  plain := rfl
  tinted := rfl
  spans := rfl
  ordered := .nil
  within := by
    intro span member
    cases member

section

variable {segments : List (Segment Ink)} {styled : StyledText}

/-- A text that shows segments spells them, if they hold nothing that it leaves out. -/
theorem plain_eq_segmentsText
    (shown : styled.Shows segments)
    (kept : ∀ c ∈ segmentsText segments, isCursorControl c = false) :
    styled.plain = segmentsText segments := by
  rw [shown.plain]
  exact List.filter_eq_self.mpr fun c member => by rw [kept c member]; rfl

/-- Where the text was before, the same spans lie over it. -/
theorem stylesAt_behind_before
    (more : Text)
    (style : Option Style)
    {position : Nat}
    (before : position < styled.plain.length) :
    (styled.behind more style).stylesAt position = styled.stylesAt position := by
  have notThere : ¬ styled.plain.length ≤ position := by omega
  cases style <;> simp [stylesAt, behind, notThere]

/-- Over what was added lies its own span alone. -/
theorem stylesAt_behind_after
    (shown : styled.Shows segments)
    (more : Text)
    (style : Option Style)
    {position : Nat}
    (after : styled.plain.length ≤ position)
    (inside : position < styled.plain.length + more.length) :
    (styled.behind more style).stylesAt position = style.toList := by
  have ended : ∀ span ∈ styled.spans, span.start ≤ position → span.stop ≤ position :=
    fun span member _ => Nat.le_trans (shown.within span member) after
  cases style <;> simpa [stylesAt, behind, after, inside] using ended

theorem tinted_behind
    (shown : styled.Shows segments)
    (more : Text)
    (style : Option Style) :
    (styled.behind more style).tinted =
      styled.tinted ++ more.map fun c => (c, style.toList) := by
  have split : (styled.behind more style).plain.zipIdx =
      styled.plain.zipIdx ++ more.zipIdx styled.plain.length := by
    rw [behind, List.zipIdx_append, Nat.zero_add]
  rw [StyledText.tinted, split, List.map_append, StyledText.tinted]
  congr 1
  · apply List.map_congr_left
    intro cell member
    have before := (List.mem_zipIdx (x := cell.1) (i := cell.2) member).2.1
    rw [stylesAt_behind_before more style (by omega)]
  · have chars := congrArg (List.map fun c => (c, style.toList))
      (List.zipIdx_map_fst styled.plain.length more)
    rw [List.map_map] at chars
    rw [← chars]
    apply List.map_congr_left
    intro cell member
    have inside := List.mem_zipIdx (x := cell.1) (i := cell.2) member
    rw [shown.stylesAt_behind_after more style inside.1 inside.2.1]
    rfl

theorem spans_behind
    (shown : styled.Shows segments)
    (more : Text)
    (style : Option Style) :
    (styled.behind more style).spans.map
        (fun span => ((styled.behind more style).under span, span.style)) =
      styled.spans.map (fun span => (styled.under span, span.style)) ++
        (style.map (more, ·)).toList := by
  rw [behind, List.map_append]
  congr 1
  · apply List.map_congr_left
    intro span member
    rw [under, under, List.take_append_of_le_length (shown.within span member)]
  · cases style with
    | none => rfl
    | some style =>
        simp only [Option.map_some, Option.toList_some, List.map_cons, List.map_nil, under,
          ← List.length_append, List.take_length, List.drop_left]

theorem append
    (shown : styled.Shows segments)
    (segment : Segment Ink) :
    (styled.append segment).Shows (segments ++ [segment]) := by
  rcases append_eq_behind styled segment with ⟨style, appended, spanned, tinted⟩
  rw [appended]
  constructor
  · simp [behind, shown.plain, withoutCursorControls, segmentsText]
  · rw [shown.tinted_behind, shown.tinted, ← tinted]
    simp
  · rw [shown.spans_behind, shown.spans, ← spanned]
    cases spanned : segment.spanned? <;> simp [spanned]
  · refine List.pairwise_append.mpr ⟨shown.ordered, ?_, ?_⟩
    · cases style <;> simp
    · intro first isFirst second isSecond
      cases style with
      | none => cases isSecond
      | some style =>
          rw [List.mem_singleton.mp isSecond]
          exact shown.within first isFirst
  · intro span member
    rw [behind, List.length_append]
    rcases List.mem_append.mp member with old | new
    · exact Nat.le_add_right_of_le (shown.within span old)
    · cases style with
      | none => cases new
      | some style =>
          cases List.mem_singleton.mp new
          exact Nat.le_refl _

end

end Shows

end StyledText

/-- A styled text is made of segments one after the other. -/
theorem shows_styledText (segments : List (Segment Ink)) :
    (styledText segments).Shows segments := by
  have onward (rest : List (Segment Ink)) :
      ∀ (made : List (Segment Ink)) (styled : StyledText), styled.Shows made →
        (rest.foldl StyledText.append styled).Shows (made ++ rest) := by
    induction rest with
    | nil => simp
    | cons segment more inductionHypothesis =>
        intro made styled shown
        have whole := inductionHypothesis _ _ (shown.append segment)
        rwa [List.append_assoc] at whole
  exact onward segments [] _ .empty

end Splice.Render
