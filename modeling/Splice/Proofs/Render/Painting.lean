import Splice.Proofs.Render.DebugStyles
import Splice.Proofs.Render.InkLedger
import Splice.Render.Ansi

namespace Splice.Render

/-!
# Painting segments

What is written for a terminal is a matter of texts and styles as long as nothing is a link:
`ansi_eq_painted` reads the text off the styles, and `painted_congr` says that nothing else
about the inks shows.  A link brings the number along that was rolled for its ink.
-/

/-- A segment as it is written for a terminal of the given system. -/
def Segment.painted (system : ColourSystem) (segment : Segment Style) : Text :=
  match segment.ink with
  | none => segment.text
  | some style => style.render system segment.text

/-- Segments, joined where they are drawn alike, as they are written for a terminal. -/
def painted (system : ColourSystem) (segments : List (Segment Ink)) : Text :=
  (joined segments).flatMap fun segment => segment.styled.painted system

/-- No style of some segments makes a link. -/
def Unlinked (segments : List (Segment Style)) : Prop :=
  ∀ segment ∈ segments, ∀ style, segment.ink = some style → style.link = none

section Joining

variable {last segment : Segment Ink} {segments : List (Segment Ink)}

theorem ink_of_mem_joinAfter
    (member : segment ∈ joinAfter last segments) :
    ∃ source ∈ last :: segments, source.ink = segment.ink := by
  induction segments generalizing last with
  | nil => exact ⟨last, List.mem_cons_self, congrArg Segment.ink (List.mem_singleton.mp member).symm⟩
  | cons next rest inductionHypothesis =>
      simp only [joinAfter] at member
      split at member
      · rcases inductionHypothesis member with ⟨source, inRow, same⟩
        rcases List.mem_cons.mp inRow with rfl | later
        · exact ⟨last, List.mem_cons_self, same⟩
        · exact ⟨source, List.mem_cons_of_mem _ (List.mem_cons_of_mem _ later), same⟩
      · rcases List.mem_cons.mp member with rfl | later
        · exact ⟨segment, List.mem_cons_self, rfl⟩
        · rcases inductionHypothesis later with ⟨source, inRow, same⟩
          exact ⟨source, List.mem_cons_of_mem _ inRow, same⟩

/-- Joining neighbours brings no new ink. -/
theorem ink_of_mem_joined
    (member : segment ∈ joined segments) :
    ∃ source ∈ segments, source.ink = segment.ink := by
  cases segments with
  | nil => cases member
  | cons first rest => exact ink_of_mem_joinAfter member

/-- A segment in an ink that stands for its style alone. -/
def Segment.inked (segment : Segment Style) : Segment Ink :=
  ⟨segment.text, segment.ink.map fun style => ⟨0, style⟩⟩

@[simp] theorem styled_inked (segment : Segment Style) : segment.inked.styled = segment := by
  rcases segment with ⟨text, ink⟩
  cases ink <;> rfl

theorem drawnAlike_inked
    (left right : Segment Ink) :
    drawnAlike left.styled.inked.ink right.styled.inked.ink = drawnAlike left.ink right.ink := by
  rcases left with ⟨leftText, leftInk⟩
  rcases right with ⟨rightText, rightInk⟩
  cases leftInk <;> cases rightInk <;> rfl

theorem joinAfter_inked
    (last : Segment Ink)
    (segments : List (Segment Ink)) :
    joinAfter last.styled.inked (segments.map fun segment => segment.styled.inked) =
      (joinAfter last segments).map fun segment => segment.styled.inked := by
  induction segments generalizing last with
  | nil => rfl
  | cons next rest inductionHypothesis =>
      simp only [List.map_cons, joinAfter, drawnAlike_inked]
      split
      · exact inductionHypothesis ⟨last.text ++ next.text, last.ink⟩
      · exact congrArg (List.cons _) (inductionHypothesis next)

/-- Which neighbours are joined is a matter of their styles. -/
theorem joined_inked
    (segments : List (Segment Ink)) :
    joined (segments.map fun segment => segment.styled.inked) =
      (joined segments).map fun segment => segment.styled.inked := by
  cases segments with
  | nil => rfl
  | cons first rest => exact joinAfter_inked first rest

end Joining

/-- What is written depends on the inks by their styles alone. -/
theorem painted_congr
    (system : ColourSystem)
    {segments others : List (Segment Ink)}
    (same : segments.map Segment.styled = others.map Segment.styled) :
    painted system segments = painted system others := by
  have byStyle (row : List (Segment Ink)) :
      painted system row = painted system ((row.map Segment.styled).map Segment.inked) := by
    simp only [painted, List.map_map, Function.comp_def, joined_inked, List.flatMap_map,
      styled_inked]
  rw [byStyle segments, byStyle others, same]

section Writing

variable
  {system : ColourSystem} {rolls : Nat → Nat} {ledger : List Style} {shelf : Shelf}
  {segments : List (Segment Ink)}

/-- Writing listed inks keeps the shelf booked. -/
theorem booked_writeAll
    (booked : shelf.Booked rolls ledger)
    (system : ColourSystem)
    (listed : ListedIn ledger segments) :
    (writeAll system shelf segments).2.Booked rolls ledger := by
  induction segments generalizing shelf with
  | nil => exact booked
  | cons segment rest inductionHypothesis =>
      rcases segment with ⟨text, ink⟩
      have listedRest : ListedIn ledger rest :=
        fun other member => listed other (List.mem_cons_of_mem _ member)
      cases ink with
      | none => exact inductionHypothesis booked listedRest
      | some ink =>
          have inkListed := listed ⟨text, some ink⟩ List.mem_cons_self ink rfl
          exact inductionHypothesis (booked.write system inkListed text) listedRest

/-- Text in an ink that makes no link is painted as its style asks for. -/
theorem text_write_of_unlinked
    (booked : shelf.Booked rolls ledger)
    (system : ColourSystem)
    {ink : Ink}
    (listed : ink.ListedIn ledger)
    (noLink : ink.style.link = none)
    (t : Text) :
    (shelf.write system ink t).1 = ink.style.render system t := by
  cases t with
  | nil => exact (Style.paint_empty _).symm
  | cons c rest =>
      rw [Shelf.text_write booked system listed (List.cons_ne_nil c rest), noLink]
      rfl

theorem writeAll_eq
    (booked : shelf.Booked rolls ledger)
    (listed : ListedIn ledger segments)
    (unlinked : Unlinked (segments.map Segment.styled)) :
    (writeAll system shelf segments).1 =
      segments.flatMap fun segment => segment.styled.painted system := by
  induction segments generalizing shelf with
  | nil => rfl
  | cons segment rest inductionHypothesis =>
      rcases segment with ⟨text, ink⟩
      have listedRest : ListedIn ledger rest :=
        fun other member => listed other (List.mem_cons_of_mem _ member)
      have unlinkedRest : Unlinked (rest.map Segment.styled) :=
        fun other member => unlinked other (List.mem_cons_of_mem _ member)
      cases ink with
      | none => exact congrArg (text ++ ·) (inductionHypothesis booked listedRest unlinkedRest)
      | some ink =>
          have inkListed := listed ⟨text, some ink⟩ List.mem_cons_self ink rfl
          have noLink := unlinked ⟨text, some ink.style⟩ List.mem_cons_self ink.style rfl
          have first := text_write_of_unlinked booked system inkListed noLink text
          have later := inductionHypothesis (booked.write system inkListed text) listedRest
            unlinkedRest
          simp only [writeAll, List.flatMap_cons, first, later, Segment.painted, Segment.styled,
            Option.map_some]

theorem listedIn_joined
    (listed : ListedIn ledger segments) :
    ListedIn ledger (joined segments) := by
  intro segment member ink drawn
  rcases ink_of_mem_joined member with ⟨source, inRow, same⟩
  exact listed source inRow ink (same.trans drawn)

/-- What holds of every style of some segments holds of every style when they are joined. -/
theorem styles_joined
    {P : Style → Prop}
    (holds : ∀ segment ∈ segments.map Segment.styled, ∀ style, segment.ink = some style → P style) :
    ∀ segment ∈ (joined segments).map Segment.styled, ∀ style,
      segment.ink = some style → P style := by
  intro segment member style drawn
  rcases List.mem_map.mp member with ⟨made, inJoined, rfl⟩
  rcases ink_of_mem_joined inJoined with ⟨source, inRow, same⟩
  apply holds source.styled (List.mem_map_of_mem inRow) style
  rw [← drawn]
  exact congrArg (Option.map Ink.style) same

/-- Segments without a link are written as their styles ask for, whatever was written before. -/
theorem ansi_eq_painted
    (booked : shelf.Booked rolls ledger)
    (listed : ListedIn ledger segments)
    (unlinked : Unlinked (segments.map Segment.styled)) :
    (ansi system shelf segments).1 = painted system segments :=
  writeAll_eq booked (listedIn_joined listed) (styles_joined unlinked)

end Writing

end Splice.Render
