import Splice.Settings.Tracing
import Splice.Style.Ink

namespace Splice

/-!
# Inks that are kept are right

A shelf answers from what it keeps, so it gives the right style only as long as everything
that it keeps is right: an ink kept for a definition has the style that the definition
defines, and an ink kept for two styles shows the upper one over the lower one.  A shelf
starts that way, and no request changes it.
-/

namespace Shelf

/-- Every ink that a shelf keeps has the style that it is kept for. -/
structure Sound (shelf : Shelf) : Prop where
  defined : ∀ entry ∈ shelf.defined, Style.define entry.1 = .ok entry.2.style
  mixed : ∀ entry ∈ shelf.mixed, entry.2.style = entry.1.1.under entry.1.2

theorem mem_remember
    {α β : Type}
    [BEq α]
    {limit : Nat}
    {key : α}
    {value : β}
    {entries : List (α × β)}
    {entry : α × β}
    (member : entry ∈ remember limit key value entries) :
    entry = (key, value) ∨ entry ∈ entries := by
  have inAll := List.mem_of_mem_take member
  rcases List.mem_cons.mp inAll with same | old
  · exact .inl same
  · exact .inr (List.mem_filter.mp old).1

namespace Sound

variable {shelf : Shelf}

theorem of_empty {rolls : Nat → Nat} : Sound { rolls := rolls } where
  defined := by
    intro entry member
    cases member
  mixed := by
    intro entry member
    cases member

theorem fresh
    (sound : shelf.Sound)
    (style : Style) :
    (shelf.fresh style).2.Sound :=
  ⟨sound.defined, sound.mixed⟩

/-- Remembering an ink under a definition of its style keeps everything right. -/
theorem remember_defined
    (sound : shelf.Sound)
    (next : Nat)
    {definition : Text}
    (ink : Ink)
    (defines : Style.define definition = .ok ink.style) :
    Sound { shelf with
      next := next
      defined := remember definedLimit definition ink shelf.defined } where
  defined := by
    intro entry member
    rcases mem_remember member with rfl | old
    · exact defines
    · exact sound.defined entry old
  mixed := sound.mixed

/-- A definition gets an ink of the style that it defines. -/
theorem style_define
    (sound : shelf.Sound)
    {definition : Text}
    {style : Style}
    (defines : Style.define definition = .ok style) :
    ∃ ink, (shelf.define definition).1 = .ok ink ∧ ink.style = style := by
  unfold Shelf.define
  cases kept : shelf.defined.lookup definition with
  | some ink =>
      rcases List.lookup_eq_some_iff.mp kept with ⟨front, back, shape, _⟩
      have entry := sound.defined (definition, ink) (by simp [shape])
      rw [defines] at entry
      exact ⟨ink, rfl, (Except.ok.inj entry).symm⟩
  | none =>
      rw [defines]
      by_cases null : style.isNull = true
      · refine ⟨Ink.null, by simp [null], ?_⟩
        exact (Style.eq_null_of_isNull null).symm
      · exact ⟨⟨shelf.next, style⟩, by simp [null, Shelf.fresh], rfl⟩

theorem define
    (sound : shelf.Sound)
    (definition : Text) :
    (shelf.define definition).2.Sound := by
  unfold Shelf.define
  cases kept : shelf.defined.lookup definition with
  | some ink =>
      rcases List.lookup_eq_some_iff.mp kept with ⟨front, back, shape, _⟩
      have entry := sound.defined (definition, ink) (by simp [shape])
      exact sound.remember_defined shelf.next ink entry
  | none =>
      cases defines : Style.define definition with
      | error fault => exact sound
      | ok style =>
          by_cases null : style.isNull = true
          · rw [Style.eq_null_of_isNull null] at defines ⊢
            exact sound.remember_defined shelf.next Ink.null defines
          · simp only [null]
            exact sound.remember_defined (shelf.next + 1) ⟨shelf.next, style⟩ defines

theorem mixture
    (sound : shelf.Sound)
    (lower upper : Ink) :
    (shelf.mixture lower upper).2.Sound := by
  unfold Shelf.mixture
  split
  · exact sound
  · split
    · exact sound
    · split
      · exact sound
      · exact sound.fresh _

theorem keepMixture
    (sound : shelf.Sound)
    {lower upper ink : Ink}
    (shows : ink.style = lower.style.under upper.style) :
    (shelf.keepMixture lower upper ink).Sound where
  defined := sound.defined
  mixed := by
    intro entry member
    rcases mem_remember member with rfl | old
    · exact shows
    · exact sound.mixed entry old

theorem mix
    (sound : shelf.Sound)
    (lower upper : Ink) :
    (shelf.mix lower upper).2.Sound := by
  have kept := (sound.mixture lower upper).keepMixture (style_mixture sound.mixed lower upper)
  unfold Shelf.mix
  dsimp only
  split
  · exact kept.fresh _
  · exact kept

theorem write
    (sound : shelf.Sound)
    (system : ColourSystem)
    (ink : Ink)
    (t : Text) :
    (shelf.write system ink t).2.Sound := by
  have afterCodes : (shelf.codes system ink).2.Sound := by
    unfold Shelf.codes
    split
    · exact sound
    · exact ⟨sound.defined, sound.mixed⟩
  unfold Shelf.write
  split
  · exact sound
  · exact afterCodes

end Sound

end Shelf

/-- The style of a boundary is the one that its definition defines. -/
theorem Tracing.define_definition
    (tracing : Tracing) :
    Style.define tracing.definition = .ok tracing.boundary := by
  have defined := tracing.defined
  cases defines : Style.define tracing.definition with
  | error fault =>
      rw [defines] at defined
      cases defined
  | ok style =>
      rw [defines] at defined
      cases defined
      rfl

end Splice
