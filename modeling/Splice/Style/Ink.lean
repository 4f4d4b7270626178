import Splice.Style.Definition
import Splice.Style.Escape

namespace Splice

/-!
# Inks

An ink is a style that is made once and then used again.  The shelf keeps the
inks made from definitions and the inks mixed from two others, so that asking
again for the same definition or mixture gives the same ink; only a mixture with a
link is another ink each time, as every link has a number of its own.  The shelf also
keeps the codes that an ink was written with for the terminals of each system.  Both
collections of inks forget what was not asked for in the longest time once they are
full.
-/

/-- A style with an identity. -/
structure Ink where
  number : Nat
  style : Style
  deriving DecidableEq

namespace Ink

/-- The ink that decides nothing. -/
def null : Ink := ⟨0, Style.null⟩

/-- The ink of a legend's title. -/
def title : Ink := ⟨1, Style.null.set .bold true⟩

end Ink

/-- All inks that may be used again. -/
structure Shelf where
  /-- The number of the next ink. -/
  next : Nat := 2
  /-- Inks by definition, the one asked for last in front. -/
  defined : List (Text × Ink) := []
  /-- Inks by the two styles they were mixed from, the one asked for last in front. -/
  mixed : List ((Style × Style) × Ink) := []
  /-- The codes each ink was written with for each system. -/
  written : List ((Nat × ColourSystem) × Text) := []
  /-- The numbers that are rolled for the links of the inks. -/
  rolls : Nat → Nat := fun _ => 0

namespace Shelf

/-- How many defined inks are kept. -/
def definedLimit : Nat := 4096

/-- How many mixed inks are kept. -/
def mixedLimit : Nat := 1024

/-- Put an entry in front, drop its older copy, and keep no more than `limit`. -/
def remember {α β : Type} [BEq α] (limit : Nat) (key : α) (value : β) (entries : List (α × β)) :
    List (α × β) :=
  ((key, value) :: entries.filter fun entry => entry.1 != key).take limit

/-- A new ink of a style. -/
def fresh (shelf : Shelf) (style : Style) : Ink × Shelf :=
  (⟨shelf.next, style⟩, { shelf with next := shelf.next + 1 })

/-- The ink of a definition: the one kept under it, or a new one. -/
def define (shelf : Shelf) (definition : Text) : Except StyleFault Ink × Shelf :=
  match shelf.defined.lookup definition with
  | some ink =>
      (.ok ink, { shelf with defined := remember definedLimit definition ink shelf.defined })
  | none =>
      match Style.define definition with
      | .error fault => (.error fault, shelf)
      | .ok style =>
          let (ink, shelf) := if style.isNull then (Ink.null, shelf) else shelf.fresh style
          (.ok ink, { shelf with defined := remember definedLimit definition ink shelf.defined })

/-- The ink kept for two styles, or the one to keep for them. -/
def mixture (shelf : Shelf) (lower upper : Ink) : Ink × Shelf :=
  match shelf.mixed.lookup (lower.style, upper.style) with
  | some ink => (ink, shelf)
  | none =>
      if upper.style.isNull then (lower, shelf)
      else if lower.style.isNull then (upper, shelf)
      else shelf.fresh (lower.style.under upper.style)

/-- Keep the ink of two styles. -/
def keepMixture (shelf : Shelf) (lower upper ink : Ink) : Shelf :=
  { shelf with mixed := remember mixedLimit (lower.style, upper.style) ink shelf.mixed }

/-- The ink that shows `upper` over `lower`, which is kept from now on, or one like it if it is a link. -/
def mix (shelf : Shelf) (lower upper : Ink) : Ink × Shelf :=
  let (ink, shelf) := shelf.mixture lower upper
  let shelf := shelf.keepMixture lower upper ink
  if ink.style.link.isSome then shelf.fresh ink.style else (ink, shelf)

/-- The codes an ink is written with on a terminal of the given system. -/
def codes (shelf : Shelf) (system : ColourSystem) (ink : Ink) : Text × Shelf :=
  match shelf.written.lookup (ink.number, system) with
  | some codes => (codes, shelf)
  | none =>
      let codes := ink.style.codeText system
      (codes, { shelf with written := ((ink.number, system), codes) :: shelf.written })

/-- Write a text in an ink; the empty text and the null style leave no sequence. -/
def write (shelf : Shelf) (system : ColourSystem) (ink : Ink) (t : Text) : Text × Shelf :=
  if t.isEmpty || ink.style.isNull then (t, shelf)
  else
    let (codes, shelf) := shelf.codes system ink
    (Style.linked (shelf.rolls ink.number) ink.style.link (Style.paint codes t), shelf)

theorem style_mixture
    {shelf : Shelf}
    (sound : ∀ entry ∈ shelf.mixed, entry.2.style = entry.1.1.under entry.1.2)
    (lower upper : Ink) :
    (shelf.mixture lower upper).1.style = lower.style.under upper.style := by
  unfold mixture
  cases kept : shelf.mixed.lookup (lower.style, upper.style) with
  | some ink =>
      obtain ⟨front, back, split, _⟩ := List.lookup_eq_some_iff.mp kept
      exact sound ((lower.style, upper.style), ink) (by simp [split])
  | none =>
      by_cases upperNull : upper.style.isNull
      · simp only [upperNull, ↓reduceIte]
        rw [Style.eq_null_of_isNull upperNull, Style.under_null]
      · by_cases lowerNull : lower.style.isNull
        · simp only [upperNull, lowerNull, Bool.false_eq_true, ↓reduceIte]
          rw [Style.eq_null_of_isNull lowerNull, Style.null_under]
        · simp [upperNull, lowerNull, fresh]

/-- A mixture shows the upper style over the lower one, if every kept mixture does. -/
theorem style_mix
    {shelf : Shelf}
    (sound : ∀ entry ∈ shelf.mixed, entry.2.style = entry.1.1.under entry.1.2)
    (lower upper : Ink) :
    (shelf.mix lower upper).1.style = lower.style.under upper.style := by
  rw [← style_mixture sound lower upper]
  unfold mix
  dsimp only
  split <;> rfl

end Shelf

end Splice
