import Splice.Proofs.Provenance.Colours
import Splice.Proofs.Render.DebugText
import Splice.Proofs.Render.Moves
import Splice.Proofs.Render.StyledLayout
import Splice.Proofs.Style.Shelves

namespace Splice

/-!
# The hand of debug rendering

A walk only adds to what lasts of a hand: a registry keeps the colours that it gave, and a
shelf stays right, also where the walk is stopped (`Hand.Gains`).  The ink in use has the
style that its scheme asks for, where the scheme takes its colours from the registry of
the end (`Hand.Draws`): a colour that is given now is still the same then.
-/

/-- Give several tokens their colours. -/
def Registry.colourAll (registry : Registry) (tokens : List Token) : Registry :=
  tokens.foldl colour registry

/-- The colours of a registry, and the emphasis that the rules ask for. -/
def Scheme.of (tracing : Tracing) (registry : Registry) : Scheme where
  colours token := Palette.style (registry.colourOf token)
  boundary := tracing.boundary

namespace Registry

variable {registry : Registry}

/-- Using several tokens keeps the slots in order. -/
theorem InOrder.colourAll
    (inOrder : registry.InOrder)
    (tokens : List Token) :
    (registry.colourAll tokens).InOrder := by
  induction tokens generalizing registry with
  | nil => exact inOrder
  | cons token rest inductionHypothesis => exact inductionHypothesis (inOrder.colour token)

/-- Several tokens that are used one after another are listed in the order of first use. -/
theorem InOrder.coloured_colourAll
    (inOrder : registry.InOrder)
    (tokens : List Token) :
    (registry.colourAll tokens).coloured =
      (registry.coloured ++ tokens.map Token.id).eraseDups := by
  induction tokens generalizing registry with
  | nil => simp [Registry.colourAll, eraseDups_eq_self inOrder.distinct]
  | cons token rest inductionHypothesis =>
      have first := coloured_colour_eq inOrder.distinct token
      have later := inductionHypothesis (inOrder.colour token)
      rw [first, eraseDups_eraseDups_append, List.append_assoc] at later
      exact later

/-- Using several tokens keeps all slots. -/
theorem slots_colourAll
    (registry : Registry)
    (tokens : List Token) :
    registry.slots <+: (registry.colourAll tokens).slots := by
  induction tokens generalizing registry with
  | nil => exact List.prefix_refl _
  | cons token rest inductionHypothesis =>
      exact (slots_colour registry token).trans (inductionHypothesis (registry.colour token))

/-- A token that was used has a colour. -/
theorem isColoured_colourAll
    (registry : Registry)
    {tokens : List Token}
    {token : Token}
    (member : token ∈ tokens) :
    (registry.colourAll tokens).isColoured token = true := by
  induction tokens generalizing registry with
  | nil => cases member
  | cons other rest inductionHypothesis =>
      rcases List.mem_cons.mp member with rfl | later
      · exact isColoured_of_grown (slots_colourAll _ rest) (isColoured_colour registry token)
      · exact inductionHypothesis (registry.colour other) later

/-- Meeting a token gives it its colour, which changes nothing when it is met again. -/
theorem colourAll_meetToken
    (registry : Registry)
    (met : List Token)
    (token : Token) :
    registry.colourAll (Render.meetToken met token) = registry.colourAll (met ++ [token]) := by
  unfold Render.meetToken
  split
  · next known =>
      rcases List.any_eq_true.mp known with ⟨other, member, same⟩
      have sameId : other.id = token.id := beq_iff_eq.mp same
      have coloured := registry.isColoured_colourAll member
      rw [isColoured_iff, sameId, ← isColoured_iff] at coloured
      rcases Option.isSome_iff_exists.mp coloured with ⟨slot, found⟩
      rw [colourAll, colourAll, List.foldl_append]
      exact (colour_of_some found).symm
  · rfl

/-- Colouring the tokens as they are first met is colouring those met before and then them all. -/
theorem colourAll_foldl_meetToken
    (registry : Registry)
    (met tokens : List Token) :
    registry.colourAll (tokens.foldl Render.meetToken met) =
      registry.colourAll (met ++ tokens) := by
  induction tokens using List.reverseRecOn with
  | nil => simp
  | append_singleton front token inductionHypothesis =>
      rw [List.foldl_append, List.foldl_cons, List.foldl_nil, colourAll_meetToken,
        ← List.append_assoc]
      simp only [colourAll, List.foldl_append] at inductionHypothesis ⊢
      rw [inductionHypothesis]

end Registry

/-- The scheme of a document: every place that it comes from has its colour by then. -/
def Scheme.after (tracing : Tracing) (registry : Registry) (document : Document) : Scheme :=
  .of tracing (registry.colourAll document.places)

namespace Render

variable {σ μ : Type}

/-- What every move of a pen keeps between the hand before it and the hand after it. -/
structure Pen.Keeps (pen : Pen σ μ) (R : σ → σ → Prop) : Prop where
  same : ∀ hand, R hand hand
  next : ∀ {first second third}, R first second → R second third → R first third
  enter : ∀ hand, R hand (pen.enter hand)
  leave : ∀ {outside inside}, R outside inside → R outside (pen.leave outside inside)
  mark : ∀ token hand, R hand (pen.mark token hand)

theorem handAfter_eq
    (result : Except (Stopped σ μ) (Desk σ μ)) :
    handAfter result = (deskAfter result).hand := by
  cases result <;> rfl

namespace Pen.Keeps

variable [Hooks μ] {pen : Pen σ μ} {R : σ → σ → Prop}

theorem desk
    (keeps : pen.Keeps R)
    (spacing : Spacing) :
    Render.Keeps pen spacing fun before after => R before.hand after.hand where
  same desk := keeps.same desk.hand
  next := keeps.next
  breakLine _ desk := keeps.same desk.hand
  write _ desk := keeps.same desk.hand
  enter desk := keeps.enter desk.hand
  leave := keeps.leave
  mark token desk := keeps.mark token desk.hand
  finish desk := keeps.same desk.hand

/-- What every move keeps is kept by a walk, wherever it stops. -/
theorem walkAll
    (keeps : pen.Keeps R)
    (spacing : Spacing)
    (base : Nat)
    (desk : Desk σ μ)
    (nodes : List Node) :
    R desk.hand (handAfter (Render.walkAll pen spacing base desk nodes)) := by
  rw [handAfter_eq]
  exact (keeps.desk spacing).walkAll base desk nodes

end Pen.Keeps

end Render

namespace Render.Hand

/-- What lasts of a hand only gains: colours are added, and what is kept stays right. -/
structure Gains (earlier later : Hand) : Prop where
  slots : earlier.registry.slots <+: later.registry.slots
  /-- Exactly the places that are listed were given their colours. -/
  places : ∀ {registry : Registry},
    earlier.registry = registry.colourAll (earlier.seen.map Prod.fst) →
    later.registry = registry.colourAll (later.seen.map Prod.fst)
  shelf : earlier.shelf.Sound → later.shelf.Sound

/--
Asking for the emphasis changes nothing but the shelf; a sound shelf stays sound and mixes
the emphasis into the style of the ink.
-/
theorem emphasise_eq
    (tracing : Tracing)
    (ink : Ink)
    (hand : Hand) :
    ∃ mixed shelf,
      hand.emphasise tracing ink = (mixed, { hand with shelf := shelf }) ∧
      (hand.shelf.Sound →
        shelf.Sound ∧ mixed.style = ink.style.under tracing.boundary) := by
  unfold emphasise boundary
  cases result : hand.shelf.define tracing.definition with
  | mk found shelf =>
      cases found with
      | error fault =>
          refine ⟨_, _, rfl, ?_⟩
          intro sound
          rcases sound.style_define tracing.define_definition with ⟨upper, defined, _⟩
          rw [result] at defined
          cases defined
      | ok upper =>
          refine ⟨_, _, rfl, ?_⟩
          intro sound
          rcases sound.style_define tracing.define_definition with ⟨same, defined, upperStyle⟩
          have kept := sound.define tracing.definition
          rw [result] at defined kept
          cases defined
          rw [← upperStyle]
          exact ⟨kept.mix ink upper, Shelf.style_mix kept.mixed ink upper⟩

/-- The ink of a token was listed for a token of the same place, or the token is met now. -/
theorem inkOf_cases
    (hand : Hand)
    (token : Token) :
    (∃ entry ∈ hand.seen, entry.1.same token = true ∧ hand.inkOf token = (entry.2, hand)) ∨
      hand.inkOf token = hand.meet token := by
  unfold inkOf seenInk?
  cases found : hand.seen.find? fun entry => entry.1.same token with
  | some entry =>
      have same := List.find?_some found
      exact .inl ⟨entry, List.mem_of_find?_eq_some found, same, rfl⟩
  | none => exact .inr rfl

namespace Gains

variable {first second third : Hand}

theorem same (hand : Hand) : hand.Gains hand where
  slots := List.prefix_refl _
  places known := known
  shelf sound := sound

theorem next
    (earlier : first.Gains second)
    (later : second.Gains third) :
    first.Gains third where
  slots := earlier.slots.trans later.slots
  places known := later.places (earlier.places known)
  shelf sound := later.shelf (earlier.shelf sound)

theorem emphasise
    (tracing : Tracing)
    (ink : Ink)
    (hand : Hand) :
    hand.Gains (hand.emphasise tracing ink).2 := by
  rcases emphasise_eq tracing ink hand with ⟨mixed, shelf, shape, right⟩
  rw [shape]
  exact ⟨List.prefix_refl _, fun known => known, fun sound => (right sound).1⟩

theorem inkOf
    (token : Token)
    (hand : Hand) :
    hand.Gains (hand.inkOf token).2 := by
  rcases inkOf_cases hand token with ⟨entry, _, _, old⟩ | new
  · rw [old]
    exact .same hand
  · rw [new]
    constructor
    · exact Registry.slots_colour hand.registry token
    · intro registry known
      simp [meet, known, Registry.colourAll]
    · intro sound
      exact ⟨sound.defined, sound.mixed⟩

theorem mark
    (tracing : Tracing)
    (token : Token)
    (hand : Hand) :
    hand.Gains (hand.mark tracing token) := by
  have met := inkOf token hand
  unfold Hand.mark
  dsimp only
  split
  · exact ⟨met.slots, met.places, met.shelf⟩
  · have mixed := emphasise tracing (hand.inkOf token).1 (hand.inkOf token).2
    have both := met.next mixed
    exact ⟨both.slots, both.places, both.shelf⟩

end Gains

/-- All that the pen with colours does to its hand is to gain inks and colours. -/
theorem keeps_gains
    (tracing : Tracing) :
    (debugPen tracing).Keeps Gains where
  same := .same
  next := .next
  enter hand := by
    have gains := Gains.emphasise tracing hand.ink hand
    exact ⟨gains.slots, gains.places, gains.shelf⟩
  leave gains := ⟨gains.slots, gains.places, gains.shelf⟩
  mark := Gains.mark tracing

/-- A walk over nodes only gains inks and colours. -/
theorem Gains.of_walkAll
    {tracing : Tracing}
    {spacing : Spacing}
    {base : Nat}
    {desk done : Desk Hand Ink}
    {nodes : List Node}
    (walked : walkAll (debugPen tracing) spacing base desk nodes = .ok done) :
    desk.hand.Gains done.hand := by
  have gains := (keeps_gains tracing).walkAll spacing base desk nodes
  rw [walked] at gains
  exact gains

/-- A hand that draws in a style under some blocks, with inks that keep to a scheme. -/
structure Draws
    (scheme : Scheme)
    (style : Style)
    (depth : Nat)
    (hand : Hand) : Prop where
  ink : hand.ink.style = style
  depth : hand.depth = depth
  seen : ∀ entry ∈ hand.seen, entry.2.style = scheme.colours entry.1
  shelf : hand.shelf.Sound

namespace Draws

variable {tracing : Tracing} {final : Registry} {style : Style} {depth : Nat} {hand : Hand}

theorem of_start
    {shelf : Shelf}
    (sound : shelf.Sound)
    (scheme : Scheme)
    (registry : Registry) :
    (start registry shelf).Draws scheme Style.null 0 where
  ink := rfl
  depth := rfl
  seen := by
    intro entry member
    cases member
  shelf := sound

/--
The ink of a token has the style that the registry will have for it in the end: a token
that is met now has just got its colour, and one that was met before has kept it.
-/
theorem inkOf
    (draws : hand.Draws (.of tracing final) style depth)
    (token : Token)
    (grown : (hand.inkOf token).2.registry.slots <+: final.slots) :
    (hand.inkOf token).1.style = (Scheme.of tracing final).colours token ∧
      (hand.inkOf token).2.Draws (.of tracing final) style depth := by
  have shelfSound := (Gains.inkOf token hand).shelf draws.shelf
  rcases inkOf_cases hand token with ⟨entry, listed, same, old⟩ | new
  · rw [old]
    have sameColour : final.colourOf entry.1 = final.colourOf token :=
      Registry.colourOf_of_same final same
    refine ⟨?_, draws⟩
    rw [draws.seen entry listed]
    simp only [Scheme.of, sameColour]
  · rw [new] at grown shelfSound ⊢
    have lasting : final.colourOf token = hand.registry.colourOf token :=
      Registry.colourOf_of_grown grown
    have inkStyle : (hand.meet token).1.style = (Scheme.of tracing final).colours token := by
      simp only [meet, Shelf.fresh, Scheme.of, lasting]
    refine ⟨inkStyle, draws.ink, draws.depth, ?_, shelfSound⟩
    intro entry member
    rcases List.mem_append.mp member with earlier | now
    · exact draws.seen entry earlier
    · rw [List.mem_singleton.mp now]
      exact inkStyle

theorem emphasise
    (draws : hand.Draws (.of tracing final) style depth)
    (ink : Ink) :
    (hand.emphasise tracing ink).1.style = ink.style.under tracing.boundary ∧
      (hand.emphasise tracing ink).2.Draws (.of tracing final) style depth := by
  rcases emphasise_eq tracing ink hand with ⟨mixed, shelf, shape, right⟩
  rcases right draws.shelf with ⟨shelfSound, mixedStyle⟩
  rw [shape]
  exact ⟨mixedStyle, draws.ink, draws.depth, draws.seen, shelfSound⟩

theorem enter
    (draws : hand.Draws (.of tracing final) style depth) :
    (hand.enter tracing).Draws (.of tracing final) (style.under tracing.boundary)
      (depth + 1) := by
  rcases draws.emphasise hand.ink with ⟨mixedStyle, mixed⟩
  rw [draws.ink] at mixedStyle
  exact ⟨mixedStyle, congrArg (· + 1) mixed.depth, mixed.seen, mixed.shelf⟩

/-- Leaving a block draws again what was drawn outside it. -/
theorem leave
    {outside inside : Hand}
    {scheme : Scheme}
    {innerStyle : Style}
    {innerDepth : Nat}
    (drawsOutside : outside.Draws scheme style depth)
    (drawsInside : inside.Draws scheme innerStyle innerDepth) :
    (outside.leave inside).Draws scheme style depth :=
  ⟨drawsOutside.ink, drawsOutside.depth, drawsInside.seen, drawsInside.shelf⟩

/-- A marker switches to the style of its token, with the emphasis inside a block. -/
theorem mark
    (draws : hand.Draws (.of tracing final) style depth)
    (token : Token)
    (grown : (hand.mark tracing token).registry.slots <+: final.slots) :
    (hand.mark tracing token).Draws (.of tracing final)
      (if depth = 0 then (Scheme.of tracing final).colours token
        else ((Scheme.of tracing final).colours token).under tracing.boundary)
      depth := by
  have tokenGrown : (hand.inkOf token).2.registry.slots <+: final.slots := by
    refine List.IsPrefix.trans ?_ grown
    unfold Hand.mark
    dsimp only
    split
    · exact List.prefix_refl _
    · exact (Gains.emphasise tracing (hand.inkOf token).1 (hand.inkOf token).2).slots
  rcases draws.inkOf token tokenGrown with ⟨inkStyle, met⟩
  by_cases atTop : depth = 0
  · subst atTop
    simp only [Hand.mark, met.depth, ↓reduceIte]
    exact ⟨inkStyle, rfl, met.seen, met.shelf⟩
  · rcases met.emphasise (hand.inkOf token).1 with ⟨mixedStyle, mixed⟩
    rw [inkStyle] at mixedStyle
    simp only [Hand.mark, met.depth, atTop, ↓reduceIte]
    exact ⟨mixedStyle, mixed.depth, mixed.seen, mixed.shelf⟩

end Draws

end Render.Hand

namespace Render

/-- A walk over a document only gains inks and colours, also one that stops. -/
theorem Hand.Gains.of_walkDocument
    (tracing : Tracing)
    (spacing : Spacing)
    (desk : Desk Hand Ink)
    (document : Document) :
    desk.hand.Gains (handAfter (walkDocument (debugPen tracing) spacing desk document)) := by
  rw [handAfter_eq]
  exact ((Hand.keeps_gains tracing).desk spacing).walkDocument desk document

/-- What lasts of debug rendering is what the walk left in the hand. -/
theorem registry_debug_eq_handAfter
    (spacing : Spacing)
    (tracing : Tracing)
    (registry : Registry)
    (shelf : Shelf)
    (document : Document) :
    (debug spacing tracing registry shelf document).registry =
      (handAfter (walkDocument (debugPen tracing) spacing
        ⟨Sheet.start, Hand.start registry shelf⟩ document)).registry := by
  unfold debug DebugRenderer.render
  simp only [Sheet.restart_eq_start, Hand.restart_eq_start]
  cases walkDocument (debugPen tracing) spacing ⟨Sheet.start, Hand.start registry shelf⟩
      document with
  | error stopped => rfl
  | ok done => rfl

/-- Debug rendering keeps the colours that were given before. -/
theorem slots_debug
    (spacing : Spacing)
    (tracing : Tracing)
    (registry : Registry)
    (shelf : Shelf)
    (document : Document) :
    registry.slots <+: (debug spacing tracing registry shelf document).registry.slots := by
  have gains := Hand.Gains.of_walkDocument tracing spacing
    ⟨Sheet.start, Hand.start registry shelf⟩ document
  rw [registry_debug_eq_handAfter]
  exact gains.slots

/-- Debug rendering leaves a sound shelf sound, whether it comes to its end or not. -/
theorem DebugRenderer.sound_render
    (renderer : DebugRenderer)
    (registry : Registry)
    {shelf : Shelf}
    (sound : shelf.Sound)
    (document : Document) :
    (renderer.render registry shelf document).1.shelf.Sound := by
  have gains := Hand.Gains.of_walkDocument renderer.tracing renderer.spacing
    ⟨renderer.desk.sheet.restart, renderer.desk.hand.restart registry shelf⟩ document
  unfold DebugRenderer.render
  dsimp only
  generalize walkDocument (debugPen renderer.tracing) renderer.spacing
    ⟨renderer.desk.sheet.restart, renderer.desk.hand.restart registry shelf⟩ document =
      result at gains
  cases result with
  | error stopped => exact gains.shelf sound
  | ok done => exact gains.shelf sound

/--
Debug rendering gives a colour to every token that it meets, in that order, whether it
comes to its end or not.
-/
theorem registry_debug
    (spacing : Spacing)
    (tracing : Tracing)
    (registry : Registry)
    (shelf : Shelf)
    (document : Document) :
    (debug spacing tracing registry shelf document).registry =
      registry.colourAll document.met := by
  have gains := Hand.Gains.of_walkDocument tracing spacing
    ⟨Sheet.start, Hand.start registry shelf⟩ document
  have listed := @gains.places registry rfl
  rw [seen_walkDocument] at listed
  rw [registry_debug_eq_handAfter]
  exact listed.trans (registry.colourAll_foldl_meetToken [] document.met)

end Render

end Splice
