import Splice.Proofs.Render.Forms
import Splice.Proofs.Style.Definitions
import Splice.Proofs.Style.Sequences

namespace Splice

/-!
# What is borrowed

Four functions are not the program's own.  A definition is read as a style, a console drops
escape sequences, segments are joined before they are written for a terminal, and they are put
together to a text with spans.  `Borrowed.Lawful` says what is relied on in them, and
`Borrowed.standard` is the instance that runs (`lawful_standard`).

The laws leave one reader of definitions and one way to drop sequences (`Lawful.define_eq`,
`Lawful.strip_eq`).  Segments may be joined and put together in more than one way; which one
it is can be seen neither on a screen nor in a text with spans (`Lawful.alike`).  The reader of
configuration files is borrowed as well; no general result rests on how it reads.
-/

namespace Style

/-- What a definition comes to: nothing for the word `none` alone, else what its words come to. -/
inductive Defines (definition : Text) : Except StyleFault Style → Prop where
  | nothing
      (isNone : Text.trim definition = "none".toList) :
      Defines definition (.ok null)
  | words {result : Except StyleFault Style}
      (notNone : Text.trim definition ≠ "none".toList)
      (comes : Comes null (Text.words definition) result) :
      Defines definition result

section

variable {definition : Text} {style : Style} {words : List Text} {result : Except StyleFault Style}

/-- Words come to one result, and it is the reader's. -/
theorem Comes.eq_applyWords
    (comes : Comes style words result) :
    result = applyWords style words := by
  cases comes with
  | defined reads => exact (applyWords_eq_ok_iff.mpr reads).symm
  | stopped shape reads stops =>
      exact (applyWords_eq_error_iff.mpr
        ⟨_, _, _, shape, applyWords_eq_ok_iff.mpr reads, stops⟩).symm

/-- A definition comes to one result, and it is the reader's. -/
theorem defines_iff : Defines definition result ↔ define definition = result := by
  unfold define
  constructor
  · intro defines
    cases defines with
    | nothing isNone => exact if_pos isNone
    | words notNone comes => exact (if_neg notNone).trans comes.eq_applyWords.symm
  · rintro rfl
    split
    · next isNone => exact .nothing isNone
    · next notNone => exact .words notNone (comes_applyWords null (Text.words definition))

end

end Style

open Style (Screen)
open Render (Segment segmentsText StyledText cells)

/-- The functions that are borrowed, whatever they do. -/
structure Borrowed where
  define : Text → Except StyleFault Style
  strip : Text → Text
  join : List (Segment Ink) → List (Segment Ink)
  assemble : List (Segment Ink) → StyledText

namespace Borrowed

/-- What is relied on in the functions that are borrowed. -/
structure Lawful (borrowed : Borrowed) : Prop where
  define (definition : Text) : Style.Defines definition (borrowed.define definition)
  strip (t : Text) : Style.Stripped t (borrowed.strip t)
  spells (segments : List (Segment Ink)) :
    segmentsText (borrowed.join segments) = segmentsText segments
  cells (system : ColourSystem) (segments : List (Segment Ink)) :
    cells system (borrowed.join segments) = cells system segments
  assemble (segments : List (Segment Ink)) : (borrowed.assemble segments).Shows segments

/-- The functions that the program runs with. -/
def standard : Borrowed where
  define := Style.define
  strip := Style.withoutEscapes
  join := Render.joined
  assemble := Render.styledText

theorem lawful_standard : standard.Lawful where
  define _ := Style.defines_iff.mpr rfl
  strip := Style.stripped_withoutEscapes
  spells := Render.segmentsText_joined
  cells _ := Render.cells_joined
  assemble := Render.shows_styledText

/-- Joined segments as they are written for a terminal. -/
def painted (borrowed : Borrowed) (system : ColourSystem) (segments : List (Segment Ink)) : Text :=
  (borrowed.join segments).flatMap fun segment => segment.styled.painted system

namespace Lawful

variable {borrowed other : Borrowed} (lawful : borrowed.Lawful)

include lawful

/-- There is one reader of definitions. -/
theorem define_eq : borrowed.define = Style.define := by
  funext definition
  exact (Style.defines_iff.mp (lawful.define definition)).symm

/-- There is one way to drop escape sequences. -/
theorem strip_eq : borrowed.strip = Style.withoutEscapes := by
  funext t
  exact (Style.stripped_iff.mp (lawful.strip t)).symm

/-- Joined segments are shown character by character, each with the codes of its own segment. -/
theorem read?_painted
    (system : ColourSystem)
    {segments : List (Segment Ink)}
    (plain : Style.escape ∉ segmentsText segments) :
    (Screen.atRest []).read? (borrowed.painted system segments) =
      some (.atRest (Render.cells system segments)) :=
  Render.read?_of_same_cells (lawful.spells segments) (lawful.cells system segments) plain

/-- Whoever lends the functions: definitions, printed texts, screens and spans are the same. -/
theorem alike
    (otherLawful : other.Lawful)
    (system : ColourSystem)
    {segments : List (Segment Ink)}
    (plain : Style.escape ∉ segmentsText segments) :
    borrowed.define = other.define ∧
    borrowed.strip = other.strip ∧
    (Screen.atRest []).read? (borrowed.painted system segments) =
      (Screen.atRest []).read? (other.painted system segments) ∧
    (borrowed.assemble segments).plain = (other.assemble segments).plain ∧
    (borrowed.assemble segments).tinted = (other.assemble segments).tinted :=
  ⟨lawful.define_eq.trans otherLawful.define_eq.symm,
    lawful.strip_eq.trans otherLawful.strip_eq.symm,
    (lawful.read?_painted system plain).trans (otherLawful.read?_painted system plain).symm,
    (lawful.assemble segments).plain.trans (otherLawful.assemble segments).plain.symm,
    (lawful.assemble segments).tinted.trans (otherLawful.assemble segments).tinted.symm⟩

end Lawful

end Borrowed

end Splice
