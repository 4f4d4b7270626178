import Splice.Proofs.Render.DebugInks
import Splice.Proofs.Style.Codes

namespace Splice.Render

/-!
# The inks of a rendering are listed

Debug rendering draws with inks that it got from the shelf, and with the null ink and the ink
of the title, which are listed from the start.  So every ink of its segments is listed in the
ledger that its shelf ends with.
-/

/-- Every ink of a row of segments is listed. -/
def ListedIn (ledger : List Style) (segments : List (Segment Ink)) : Prop :=
  ∀ segment ∈ segments, ∀ ink, segment.ink = some ink → ink.ListedIn ledger

namespace ListedIn

variable {ledger later : List Style} {segments more : List (Segment Ink)}

theorem nil : ListedIn ledger [] := by
  intro segment member
  cases member

theorem cons
    {segment : Segment Ink}
    (first : ∀ ink, segment.ink = some ink → ink.ListedIn ledger)
    (rest : ListedIn ledger segments) :
    ListedIn ledger (segment :: segments) := by
  intro other member
  rcases List.mem_cons.mp member with rfl | inRest
  · exact first
  · exact rest other inRest

theorem append
    (first : ListedIn ledger segments)
    (second : ListedIn ledger more) :
    ListedIn ledger (segments ++ more) := by
  intro segment member
  rcases List.mem_append.mp member with inFirst | inSecond
  · exact first segment inFirst
  · exact second segment inSecond

theorem mono
    (listed : ListedIn ledger segments)
    (grown : ledger <+: later) :
    ListedIn later segments :=
  fun segment member ink drawn => (listed segment member ink drawn).mono grown

/-- Segments without an ink need no entry. -/
theorem of_unstyled
    (unstyled : ∀ segment ∈ segments, segment.ink = none) :
    ListedIn ledger segments := by
  intro segment member ink drawn
  cases (unstyled segment member).symm.trans drawn

theorem breaks (count : Nat) : ListedIn ledger (Render.breaks count) := by
  unfold Render.breaks
  split
  · exact .nil
  · exact .of_unstyled (by simp)

theorem paddedLine (column : Nat) : ListedIn ledger (Render.paddedLine column) := by
  unfold Render.paddedLine
  split
  · exact .nil
  · exact .of_unstyled (by simp)

theorem legendGap (body : List (Segment Ink)) : ListedIn ledger (Render.legendGap body) := by
  apply of_unstyled
  unfold Render.legendGap
  split
  · simp
  · split <;> simp

/-- A legend is listed when its title and its entries are. -/
theorem legend
    (tracing : Tracing)
    {seen : List (Token × Ink)}
    (title : Ink.title.ListedIn ledger)
    (entries : ∀ entry ∈ seen, entry.2.ListedIn ledger) :
    ListedIn ledger (Render.legend tracing seen) := by
  refine append (cons ?_ ?_) (.of_unstyled (by simp))
  · rintro ink ⟨⟩
    exact title
  · intro segment member ink drawn
    rcases List.mem_flatMap.mp member with ⟨entry, listed, inEntry⟩
    simp only [legendEntry, List.mem_cons, List.not_mem_nil, or_false] at inEntry
    rcases inEntry with rfl | rfl
    · cases drawn
    · cases drawn
      exact entries entry listed

end ListedIn

/-- A hand whose inks are listed. -/
structure Hand.Booked
    (rolls : Nat → Nat)
    (ledger : List Style)
    (hand : Hand) : Prop where
  shelf : hand.shelf.Booked rolls ledger
  ink : hand.ink.ListedIn ledger
  seen : ∀ entry ∈ hand.seen, entry.2.ListedIn ledger

namespace Hand.Booked

variable {rolls : Nat → Nat} {ledger : List Style} {hand : Hand}

theorem of_start
    {shelf : Shelf}
    (booked : shelf.Booked rolls ledger)
    (registry : Registry) :
    (start registry shelf).Booked rolls ledger where
  shelf := booked
  ink := booked.null
  seen := by
    intro entry member
    cases member

/-- The emphasis may add entries, and its ink is among them. -/
theorem emphasise
    (tracing : Tracing)
    (booked : hand.Booked rolls ledger)
    {ink : Ink}
    (listed : ink.ListedIn ledger) :
    ∃ later, ledger <+: later ∧
      (hand.emphasise tracing ink).1.ListedIn later ∧
      (hand.emphasise tracing ink).2.Booked rolls later := by
  rcases booked.shelf.define tracing.definition with ⟨middle, defineGrows, defined, upperListed⟩
  unfold Hand.emphasise Hand.boundary
  cases result : hand.shelf.define tracing.definition with
  | mk found shelf =>
      rw [result] at defined upperListed
      cases found with
      | error fault =>
          rcases Shelf.define_of_defines hand.shelf tracing.define_definition with ⟨upper, made⟩
          rw [result] at made
          cases made
      | ok upper =>
          rcases defined.mix (listed.mono defineGrows) (upperListed upper rfl) with
            ⟨later, mixGrows, mixed, mixedListed⟩
          have grown := defineGrows.trans mixGrows
          exact ⟨later, grown, mixedListed, mixed, booked.ink.mono grown,
            fun entry member => (booked.seen entry member).mono grown⟩

/-- The ink of a token is listed, at the latest now. -/
theorem inkOf
    (token : Token)
    (booked : hand.Booked rolls ledger) :
    ∃ later, ledger <+: later ∧
      (hand.inkOf token).1.ListedIn later ∧ (hand.inkOf token).2.Booked rolls later := by
  rcases inkOf_cases hand token with ⟨entry, listed, _, old⟩ | new
  · rw [old]
    exact ⟨ledger, List.prefix_refl _, booked.seen entry listed, booked⟩
  · rw [new]
    rcases booked.shelf.fresh (Palette.style (hand.registry.colourOf token)) with
      ⟨inkListed, made⟩
    refine ⟨_, List.prefix_append _ _, inkListed, made,
      booked.ink.mono (List.prefix_append _ _), ?_⟩
    intro entry member
    rcases List.mem_append.mp member with earlier | now
    · exact (booked.seen entry earlier).mono (List.prefix_append _ _)
    · rw [List.mem_singleton.mp now]
      exact inkListed

end Hand.Booked

/-- A desk whose inks are listed, on the sheet and in the hand. -/
structure Desk.Booked
    (rolls : Nat → Nat)
    (ledger : List Style)
    (desk : Desk Hand Ink) : Prop where
  hand : desk.hand.Booked rolls ledger
  line : ListedIn ledger desk.sheet.line
  output : ListedIn ledger desk.sheet.output

/-- From any ledger of the earlier desk, a ledger of the later one goes on. -/
def Desk.GoesOn
    (earlier later : Desk Hand Ink) : Prop :=
  ∀ {rolls ledger}, earlier.Booked rolls ledger → ∃ longer, ledger <+: longer ∧ later.Booked rolls longer

namespace Desk.Booked

variable {rolls : Nat → Nat} {ledger : List Style} {desk : Desk Hand Ink}

/-- Finishing a line uses no other ink. -/
theorem output_flush
    (booked : desk.Booked rolls ledger)
    (spacing : Spacing)
    (column : Nat) :
    ListedIn ledger (desk.sheet.flush spacing column).output := by
  cases blank : Text.allBlank desk.sheet.lineText with
  | true => simpa [Sheet.flush, blank] using booked.output
  | false =>
      simp only [Sheet.flush, blank, Bool.false_eq_true, ↓reduceIte, Sheet.emit]
      exact (booked.output.append (.breaks _)).append booked.line

theorem breakLine
    (booked : desk.Booked rolls ledger)
    (spacing : Spacing)
    (base : Nat) :
    Booked rolls ledger { desk with sheet := desk.sheet.breakLine spacing base } := by
  have written := booked.output_flush spacing base
  refine ⟨booked.hand, ?_, ?_⟩
  · simp only [Sheet.breakLine]
    split <;> exact .paddedLine base
  · simp only [Sheet.breakLine]
    split <;> exact written

theorem finish
    (booked : desk.Booked rolls ledger)
    (spacing : Spacing) :
    Booked rolls ledger { desk with sheet := desk.sheet.finish spacing } := by
  have written := booked.output_flush spacing 0
  refine ⟨booked.hand, ?_, ?_⟩
  · simp only [Sheet.finish]
    split <;> exact .paddedLine 0
  · simp only [Sheet.finish]
    split
    · exact written.append (.breaks 1)
    · exact written

theorem write
    (booked : desk.Booked rolls ledger)
    (text : Text) :
    Booked rolls ledger { desk with sheet := desk.sheet.write text desk.hand.ink } := by
  refine ⟨booked.hand, booked.line.append (.cons ?_ .nil), booked.output⟩
  rintro ink ⟨⟩
  exact booked.hand.ink

end Desk.Booked

namespace Desk.GoesOn

theorem enter
    (tracing : Tracing)
    (desk : Desk Hand Ink) :
    GoesOn desk { desk with hand := desk.hand.enter tracing } := by
  intro rolls ledger booked
  rcases booked.hand.emphasise tracing booked.hand.ink with ⟨later, grown, inkListed, hand⟩
  exact ⟨later, grown, ⟨hand.shelf, inkListed, hand.seen⟩, booked.line.mono grown,
    booked.output.mono grown⟩

theorem mark
    (tracing : Tracing)
    (token : Token)
    (desk : Desk Hand Ink) :
    GoesOn desk { desk with hand := desk.hand.mark tracing token } := by
  intro rolls ledger booked
  rcases booked.hand.inkOf token with ⟨middle, tokenGrows, tokenListed, met⟩
  unfold Hand.mark
  dsimp only
  split
  · exact ⟨middle, tokenGrows, ⟨met.shelf, tokenListed, met.seen⟩, booked.line.mono tokenGrows,
      booked.output.mono tokenGrows⟩
  · rcases met.emphasise tracing tokenListed with ⟨later, mixGrows, mixedListed, mixed⟩
    have grown := tokenGrows.trans mixGrows
    exact ⟨later, grown, ⟨mixed.shelf, mixedListed, mixed.seen⟩, booked.line.mono grown,
      booked.output.mono grown⟩

/-- Every move of debug rendering lets the ledger go on. -/
theorem keeps
    (tracing : Tracing)
    (spacing : Spacing) :
    Keeps (debugPen tracing) spacing GoesOn where
  same desk := fun booked => ⟨_, List.prefix_refl _, booked⟩
  next := by
    intro first second third earlier later rolls ledger booked
    rcases earlier booked with ⟨middle, grown, middleBooked⟩
    rcases later middleBooked with ⟨last, grownAgain, lastBooked⟩
    exact ⟨last, grown.trans grownAgain, lastBooked⟩
  breakLine base desk := fun booked => ⟨_, List.prefix_refl _, booked.breakLine spacing base⟩
  write text desk := fun booked => ⟨_, List.prefix_refl _, booked.write text⟩
  enter := enter tracing
  leave := by
    intro outside inside goesOn rolls ledger booked
    rcases goesOn booked with ⟨later, grown, last⟩
    exact ⟨later, grown, ⟨last.hand.shelf, booked.hand.ink.mono grown, last.hand.seen⟩,
      last.line, last.output⟩
  mark := mark tracing
  finish desk := fun booked => ⟨_, List.prefix_refl _, booked.finish spacing⟩

end Desk.GoesOn

/-- Debug rendering lets the ledger go on, and every ink that it draws with is listed then. -/
theorem booked_debug
    {rolls : Nat → Nat}
    {ledger : List Style}
    {shelf : Shelf}
    (booked : shelf.Booked rolls ledger)
    (spacing : Spacing)
    (tracing : Tracing)
    (registry : Registry)
    (document : Document) :
    ∃ later,
      (debug spacing tracing registry shelf document).shelf.Booked rolls later ∧
      ∀ segments,
        (debug spacing tracing registry shelf document).segments = .ok segments →
        ListedIn later segments := by
  have start :
      Desk.Booked rolls ledger ⟨Sheet.start, Hand.start registry shelf⟩ :=
    ⟨.of_start booked registry, .paddedLine 0, .nil⟩
  rcases (Desk.GoesOn.keeps tracing spacing).walkDocument _ document start with
    ⟨later, _, left⟩
  refine ⟨later, ?_⟩
  unfold debug DebugRenderer.render
  simp only [Sheet.restart_eq_start, Hand.restart_eq_start]
  cases walked : walkDocument (debugPen tracing) spacing
      ⟨Sheet.start, Hand.start registry shelf⟩ document with
  | error stopped =>
      rw [walked] at left
      exact ⟨left.hand.shelf, by simp⟩
  | ok done =>
      rw [walked] at left
      refine ⟨left.hand.shelf, ?_⟩
      rintro segments ⟨⟩
      exact (left.output.append (.legendGap _)).append
        (.legend tracing left.hand.shelf.title left.hand.seen)

end Splice.Render
