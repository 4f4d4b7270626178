import Splice.Proofs.FirstUse
import Splice.Provenance.Registry
import Splice.Style.Palette

namespace Splice.Registry

/-!
# Colours stay

A registry only ever adds slots, behind those that it has already, so the colour of a token is
the same in every later state of the registry (`colour?_of_grown`).  A claim is committed as
soon as it is made, and one is only made for a token without a slot.  So the counter stands at
the number of the slots, and the slots hold 0, 1, 2, ... in the order of first use: this is
what every use of a token keeps (`InOrder.colour`).
-/

variable {earlier later registry : Registry} {token : Token} {slot : Nat}

/-- A token with a slot has the colour of its slot, and nothing changes. -/
theorem use_of_some
    (known : registry.colour? token = some slot) :
    registry.use token = (slot, registry, []) := by
  rw [use, known]

/-- A token without a slot gets the next number of the counter. -/
theorem use_of_none
    (unknown : registry.colour? token = none) :
    registry.use token =
      (registry.nextColour,
        { registry with
          nextColour := registry.nextColour + 1
          slots := registry.slots ++ [(token.id, registry.nextColour)] },
        [s!"Assigned colour {registry.nextColour} to {String.ofList token.location}"]) := by
  have stillUnknown :
      ({ registry with nextColour := registry.nextColour + 1 } : Registry).colour? token = none :=
    unknown
  rw [use, unknown]
  simp only [claim, commit, stillUnknown, ↓reduceIte]

theorem colour_of_some
    (known : registry.colour? token = some slot) :
    registry.colour token = registry := by
  rw [Registry.colour, use_of_some known]

theorem colour_of_none
    (unknown : registry.colour? token = none) :
    registry.colour token =
      { registry with
        nextColour := registry.nextColour + 1
        slots := registry.slots ++ [(token.id, registry.nextColour)] } := by
  rw [Registry.colour, use_of_none unknown]

theorem colourOf_of_some
    (known : registry.colour? token = some slot) :
    registry.colourOf token = slot := by
  rw [colourOf, use_of_some known]

/-- The tokens without a slot are those that are not listed. -/
theorem colour?_eq_none_iff :
    registry.colour? token = none ↔ token.id ∉ registry.coloured := by
  rw [colour?, List.lookup_eq_none_iff, coloured]
  simp only [bne_iff_ne, List.mem_map, not_exists, not_and]
  exact forall₂_congr fun entry member => ne_comm

/-- The tokens with a colour are those that are listed. -/
theorem isColoured_iff :
    registry.isColoured token = true ↔ token.id ∈ registry.coloured := by
  rw [isColoured, Option.isSome_iff_ne_none, Ne, colour?_eq_none_iff, not_not]

/-- Using a token keeps all slots. -/
theorem slots_colour
    (registry : Registry)
    (token : Token) :
    registry.slots <+: (registry.colour token).slots := by
  cases found : registry.colour? token with
  | some slot =>
      simp only [colour_of_some found, List.prefix_rfl]
  | none =>
      rw [colour_of_none found]
      exact List.prefix_append _ _

/-- A token that is used has its colour from then on. -/
theorem colour?_colour
    (registry : Registry)
    (token : Token) :
    (registry.colour token).colour? token = some (registry.colourOf token) := by
  cases found : registry.colour? token with
  | some slot => rw [colour_of_some found, colourOf_of_some found, found]
  | none =>
      have noSlot : registry.slots.lookup token.id = none := found
      rw [colour_of_none found, colourOf, use_of_none found]
      simp [colour?, List.lookup_append, noSlot]

/-- A token keeps its colour in every later state of a registry. -/
theorem colour?_of_grown
    (grown : earlier.slots <+: later.slots)
    (known : earlier.colour? token = some slot) :
    later.colour? token = some slot := by
  rcases grown with ⟨more, shape⟩
  have found : earlier.slots.lookup token.id = some slot := known
  rw [colour?, ← shape, List.lookup_append, found, Option.some_or]

theorem isColoured_of_grown
    (grown : earlier.slots <+: later.slots)
    (known : earlier.isColoured token = true) :
    later.isColoured token = true := by
  rcases Option.isSome_iff_exists.mp known with ⟨slot, found⟩
  exact Option.isSome_iff_exists.mpr ⟨slot, colour?_of_grown grown found⟩

theorem isColoured_colour
    (registry : Registry)
    (token : Token) :
    (registry.colour token).isColoured token = true :=
  Option.isSome_iff_exists.mpr ⟨_, colour?_colour registry token⟩

/-- The colour that a token is given is its colour in every later state of the registry. -/
theorem colourOf_of_grown
    (grown : (registry.colour token).slots <+: later.slots) :
    later.colourOf token = registry.colourOf token :=
  colourOf_of_some (colour?_of_grown grown (colour?_colour registry token))

/-- Tokens of the same place have the same colour. -/
theorem colourOf_of_same
    (registry : Registry)
    {other : Token}
    (same : token.same other = true) :
    registry.colourOf token = registry.colourOf other := by
  have sameId : token.id = other.id := by simpa [Token.same] using same
  have sameSlot : registry.colour? token = registry.colour? other := by rw [colour?, sameId, colour?]
  cases found : registry.colour? token with
  | some slot => rw [colourOf_of_some found, colourOf_of_some (sameSlot.symm.trans found)]
  | none =>
      rw [colourOf, colourOf, use_of_none found, use_of_none (sameSlot.symm.trans found)]

/-- Using a token lists it unless it was used before. -/
theorem coloured_colour_eq
    (distinct : registry.coloured.Nodup)
    (token : Token) :
    (registry.colour token).coloured = (registry.coloured ++ [token.id]).eraseDups := by
  rw [eraseDups_concat, eraseDups_eq_self distinct]
  cases found : registry.colour? token with
  | some slot =>
      have listed : token.id ∈ registry.coloured :=
        isColoured_iff.mp (Option.isSome_iff_exists.mpr ⟨slot, found⟩)
      rw [colour_of_some found, if_pos listed]
  | none =>
      rw [colour_of_none found, if_neg (colour?_eq_none_iff.mp found)]
      simp [coloured]

/-- The slots hold 0, 1, 2, ... for distinct tokens, and the counter stands behind them. -/
structure InOrder (registry : Registry) : Prop where
  distinct : registry.coloured.Nodup
  slots : registry.slots = registry.coloured.zipIdx
  counter : registry.nextColour = registry.coloured.length

namespace InOrder

theorem of_empty (sites : List (Site × Token)) : InOrder { sites := sites } where
  distinct := .nil
  slots := rfl
  counter := rfl

/-- Using a token keeps the slots in order. -/
theorem colour
    (inOrder : registry.InOrder)
    (token : Token) :
    (registry.colour token).InOrder := by
  cases found : registry.colour? token with
  | some slot =>
      rw [colour_of_some found]
      exact inOrder
  | none =>
      have listed := coloured_colour_eq inOrder.distinct token
      rw [eraseDups_concat, if_neg (colour?_eq_none_iff.mp found),
        eraseDups_eq_self inOrder.distinct] at listed
      constructor
      · rw [coloured_colour_eq inOrder.distinct]
        exact nodup_eraseDups _
      · rw [listed, colour_of_none found, List.zipIdx_append, ← inOrder.slots, inOrder.counter]
        simp
      · rw [listed, colour_of_none found, inOrder.counter, List.length_append,
          List.length_singleton]

/-- The colour of a token is its place in the order of first use. -/
theorem colour?_eq_some_iff
    (inOrder : registry.InOrder)
    {index : Nat} :
    registry.colour? token = some index ↔ registry.coloured[index]? = some token.id := by
  rw [colour?, inOrder.slots, lookup_zipIdx, idxOf?_eq_some_iff_of_nodup inOrder.distinct]

/-- Registries in order that list the same tokens have the same slots. -/
theorem slots_eq
    (inOrder : earlier.InOrder)
    (otherInOrder : later.InOrder)
    (same : earlier.coloured = later.coloured) :
    earlier.slots = later.slots := by
  rw [inOrder.slots, otherInOrder.slots, same]

/-- Registries in order that tell the same colours list the same tokens. -/
theorem coloured_eq
    (inOrder : earlier.InOrder)
    (otherInOrder : later.InOrder)
    (same : ∀ token, earlier.colour? token = later.colour? token) :
    earlier.coloured = later.coloured := by
  apply List.ext_getElem?
  intro index
  apply Option.ext
  intro id
  have here :
      earlier.colour? ⟨id, [], 0, 0⟩ = some index ↔ earlier.coloured[index]? = some id :=
    inOrder.colour?_eq_some_iff
  have there :
      later.colour? ⟨id, [], 0, 0⟩ = some index ↔ later.coloured[index]? = some id :=
    otherInOrder.colour?_eq_some_iff
  rw [← here, ← there, same]

end InOrder

end Splice.Registry

namespace Splice.Palette

theorem colourNumber_eq_iff
    (left right : Nat) :
    colourNumber left = colourNumber right ↔ left % size = right % size := by
  have inside (index : Nat) : index % size < colours.length := by
    rw [length_colours]
    exact Nat.mod_lt _ (by decide)
  have number (index : Nat) : colourNumber index = colours.get ⟨index % size, inside index⟩ := by
    have place : ((index : Int) % size).toNat = index % size := by omega
    simp [colourNumber, place, List.getD_eq_getElem?_getD, inside index]
  rw [number, number, nodup_colours.get_inj_iff, Fin.mk.injEq]

/-- Two places show the same background when they are a whole number of palettes apart. -/
theorem background_style_eq_iff
    (left right : Nat) :
    (style left).background = (style right).background ↔ left % size = right % size := by
  rw [← colourNumber_eq_iff]
  constructor
  · intro same
    exact Hue.numbered.inj (congrArg Colour.hue (Option.some.inj same))
  · intro same
    simp only [style, same]

end Splice.Palette
