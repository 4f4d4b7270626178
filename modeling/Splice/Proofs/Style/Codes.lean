import Splice.Proofs.Style.Shelves

namespace Splice

/-!
# The codes that inks keep

A shelf keeps the codes of an ink by the number of the ink.  No number is given twice, so a
ledger can list the style of every ink by its number, and every request only lets the ledger
go on.  The codes that are kept for a system are then those that the listed style has under
that system (`Shelf.Booked`).
-/

/-- The number of an ink stands for its style in a ledger. -/
def Ink.ListedIn (ink : Ink) (ledger : List Style) : Prop :=
  ledger[ink.number]? = some ink.style

theorem Ink.ListedIn.mono
    {ink : Ink}
    {ledger later : List Style}
    (listed : ink.ListedIn ledger)
    (grown : ledger <+: later) :
    ink.ListedIn later := by
  rcases grown with ⟨more, rfl⟩
  rcases List.getElem?_eq_some_iff.mp listed with ⟨inside, _⟩
  exact (List.getElem?_append_left inside).trans listed

namespace Style

theorem codeText_null (system : ColourSystem) : null.codeText system = [] := by
  cases system <;> decide +kernel

@[simp] theorem paint_nil (t : Text) : paint [] t = t := by
  simp [paint]

@[simp] theorem paint_empty (codes : Text) : paint codes [] = [] := by
  simp [paint]

end Style

namespace Shelf

/-- A definition that defines a style gets an ink. -/
theorem define_of_defines
    (shelf : Shelf)
    {definition : Text}
    {style : Style}
    (defines : Style.define definition = .ok style) :
    ∃ ink, (shelf.define definition).1 = .ok ink := by
  unfold Shelf.define
  split
  · next ink _ => exact ⟨ink, rfl⟩
  · rw [defines]
    exact ⟨_, rfl⟩

/-- What the inks of a shelf are, and that the codes it keeps are those of their styles. -/
structure Booked (rolls : Nat → Nat) (ledger : List Style) (shelf : Shelf) : Prop where
  rolls : shelf.rolls = rolls
  next : shelf.next = ledger.length
  null : Ink.null.ListedIn ledger
  title : Ink.title.ListedIn ledger
  defined : ∀ entry ∈ shelf.defined, entry.2.ListedIn ledger
  mixed : ∀ entry ∈ shelf.mixed, entry.2.ListedIn ledger
  written : ∀ entry ∈ shelf.written, ∃ style,
    ledger[entry.1.1]? = some style ∧ entry.2 = style.codeText entry.1.2

namespace Booked

variable {rolls : Nat → Nat} {ledger : List Style} {shelf : Shelf}

theorem of_empty (rolls : Nat → Nat) :
    Booked rolls [Ink.null.style, Ink.title.style] { rolls := rolls } where
  rolls := rfl
  next := rfl
  null := rfl
  title := rfl
  defined := by
    intro entry member
    cases member
  mixed := by
    intro entry member
    cases member
  written := by
    intro entry member
    cases member

theorem fresh
    (booked : shelf.Booked rolls ledger)
    (style : Style) :
    (shelf.fresh style).1.ListedIn (ledger ++ [style]) ∧
      (shelf.fresh style).2.Booked rolls (ledger ++ [style]) := by
  have grown : ledger <+: ledger ++ [style] := List.prefix_append _ _
  refine ⟨?_, booked.rolls, ?_, booked.null.mono grown, booked.title.mono grown, ?_, ?_, ?_⟩
  · simp [Ink.ListedIn, Shelf.fresh, booked.next]
  · simp [Shelf.fresh, booked.next]
  · exact fun entry member => (booked.defined entry member).mono grown
  · exact fun entry member => (booked.mixed entry member).mono grown
  · intro entry member
    rcases booked.written entry member with ⟨kept, listed, codes⟩
    have asInk : Ink.ListedIn ⟨entry.1.1, kept⟩ ledger := listed
    exact ⟨kept, asInk.mono grown, codes⟩

theorem remember_defined
    (booked : shelf.Booked rolls ledger)
    (definition : Text)
    {ink : Ink}
    (listed : ink.ListedIn ledger) :
    Booked rolls ledger { shelf with
      defined := remember definedLimit definition ink shelf.defined } where
  rolls := booked.rolls
  next := booked.next
  null := booked.null
  title := booked.title
  defined := by
    intro entry member
    rcases mem_remember member with rfl | old
    · exact listed
    · exact booked.defined entry old
  mixed := booked.mixed
  written := booked.written

theorem define
    (booked : shelf.Booked rolls ledger)
    (definition : Text) :
    ∃ later, ledger <+: later ∧ (shelf.define definition).2.Booked rolls later ∧
      ∀ ink, (shelf.define definition).1 = .ok ink → ink.ListedIn later := by
  unfold Shelf.define
  cases kept : shelf.defined.lookup definition with
  | some ink =>
      rcases List.lookup_eq_some_iff.mp kept with ⟨front, back, shape, _⟩
      have listed := booked.defined (definition, ink) (by simp [shape])
      refine ⟨ledger, List.prefix_refl _, booked.remember_defined definition listed, ?_⟩
      intro same given
      rw [← Except.ok.inj given]
      exact listed
  | none =>
      cases Style.define definition with
      | error fault => exact ⟨ledger, List.prefix_refl _, booked, by simp⟩
      | ok style =>
          by_cases null : style.isNull = true
          · simp only [null]
            refine ⟨ledger, List.prefix_refl _,
              booked.remember_defined definition booked.null, ?_⟩
            intro same given
            rw [← Except.ok.inj given]
            exact booked.null
          · rcases booked.fresh style with ⟨listed, made⟩
            simp only [null]
            refine ⟨ledger ++ [style], List.prefix_append _ _,
              made.remember_defined definition listed, ?_⟩
            intro same given
            rw [← Except.ok.inj given]
            exact listed

theorem mixture
    (booked : shelf.Booked rolls ledger)
    {lower upper : Ink}
    (lowerListed : lower.ListedIn ledger)
    (upperListed : upper.ListedIn ledger) :
    ∃ later, ledger <+: later ∧ (shelf.mixture lower upper).2.Booked rolls later ∧
      (shelf.mixture lower upper).1.ListedIn later := by
  unfold Shelf.mixture
  split
  · next ink kept =>
      rcases List.lookup_eq_some_iff.mp kept with ⟨front, back, shape, _⟩
      have listed := booked.mixed ((lower.style, upper.style), ink) (by simp [shape])
      exact ⟨ledger, List.prefix_refl _, booked, listed⟩
  · split
    · exact ⟨ledger, List.prefix_refl _, booked, lowerListed⟩
    · split
      · exact ⟨ledger, List.prefix_refl _, booked, upperListed⟩
      · rcases booked.fresh (lower.style.under upper.style) with ⟨listed, made⟩
        exact ⟨_, List.prefix_append _ _, made, listed⟩

theorem keepMixture
    (booked : shelf.Booked rolls ledger)
    (lower upper : Ink)
    {ink : Ink}
    (listed : ink.ListedIn ledger) :
    (shelf.keepMixture lower upper ink).Booked rolls ledger where
  rolls := booked.rolls
  next := booked.next
  null := booked.null
  title := booked.title
  defined := booked.defined
  mixed := by
    intro entry member
    rcases mem_remember member with rfl | old
    · exact listed
    · exact booked.mixed entry old
  written := booked.written

theorem mix
    (booked : shelf.Booked rolls ledger)
    {lower upper : Ink}
    (lowerListed : lower.ListedIn ledger)
    (upperListed : upper.ListedIn ledger) :
    ∃ later, ledger <+: later ∧ (shelf.mix lower upper).2.Booked rolls later ∧
      (shelf.mix lower upper).1.ListedIn later := by
  rcases booked.mixture lowerListed upperListed with ⟨middle, grown, made, listed⟩
  have kept := made.keepMixture lower upper listed
  unfold Shelf.mix
  dsimp only
  split
  · rcases kept.fresh (shelf.mixture lower upper).1.style with ⟨linkListed, linkMade⟩
    exact ⟨_, grown.trans (List.prefix_append _ _), linkMade, linkListed⟩
  · exact ⟨middle, grown, kept, listed⟩

/-- An ink is written with the codes that its style has under the system at hand. -/
theorem codes
    (booked : shelf.Booked rolls ledger)
    (system : ColourSystem)
    {ink : Ink}
    (listed : ink.ListedIn ledger) :
    (shelf.codes system ink).2.Booked rolls ledger ∧
      (shelf.codes system ink).1 = ink.style.codeText system := by
  unfold Shelf.codes
  cases kept : shelf.written.lookup (ink.number, system) with
  | some found =>
      rcases List.lookup_eq_some_iff.mp kept with ⟨front, back, shape, _⟩
      rcases booked.written ((ink.number, system), found) (by simp [shape]) with
        ⟨style, entry, codes⟩
      cases listed.symm.trans entry
      exact ⟨booked, codes⟩
  | none =>
      refine ⟨⟨booked.rolls, booked.next, booked.null, booked.title, booked.defined, booked.mixed, ?_⟩, rfl⟩
      intro entry member
      rcases List.mem_cons.mp member with rfl | old
      · exact ⟨ink.style, listed, rfl⟩
      · exact booked.written entry old

theorem write
    (booked : shelf.Booked rolls ledger)
    (system : ColourSystem)
    {ink : Ink}
    (listed : ink.ListedIn ledger)
    (t : Text) :
    (shelf.write system ink t).2.Booked rolls ledger := by
  unfold Shelf.write
  split
  · exact booked
  · exact (booked.codes system listed).1

end Booked

/-- A text is painted with the codes of its style, and it is a link if its style is one. -/
theorem text_write
    {rolls : Nat → Nat}
    {ledger : List Style}
    {shelf : Shelf}
    (booked : shelf.Booked rolls ledger)
    (system : ColourSystem)
    {ink : Ink}
    (listed : ink.ListedIn ledger)
    {t : Text}
    (isText : t ≠ []) :
    (shelf.write system ink t).1 =
      Style.linked (rolls ink.number) ink.style.link (ink.style.render system t) := by
  unfold write Style.render
  split
  · next plain =>
      rcases Bool.or_eq_true_iff.mp plain with empty | null
      · exact absurd (List.isEmpty_iff.mp empty) isText
      · rw [Style.eq_null_of_isNull null, Style.codeText_null, Style.paint_nil]
        rfl
  · rw [← (booked.codes system listed).2, ← (booked.codes system listed).1.rolls]

@[simp] theorem text_write_nil
    (shelf : Shelf)
    (system : ColourSystem)
    (ink : Ink) :
    (shelf.write system ink []).1 = [] :=
  rfl

end Shelf

end Splice
