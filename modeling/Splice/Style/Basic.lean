import Splice.Style.Colour

namespace Splice

/-!
# Styles

A style sets attributes on or off and may choose a colour for the text, one for its
background and an address that the text is a link to; whatever it leaves open stays as
it was around it.  Putting one style over another lets the upper one decide wherever it
decides anything, so doing it twice changes nothing more (`under_under`).
-/

/-- A property of shown text other than its colours. -/
inductive Attribute where
  | bold
  | dim
  | italic
  | underline
  | blink
  | blink2
  | reverse
  | conceal
  | strike
  | underline2
  | frame
  | encircle
  | overline
  deriving DecidableEq

namespace Attribute

/-- All attributes in the order in which a style lists them. -/
def all : List Attribute := [
  .bold, .dim, .italic, .underline, .blink, .blink2, .reverse, .conceal, .strike,
  .underline2, .frame, .encircle, .overline]

/-- The place of an attribute in that order. -/
def index : Attribute → Fin 13
  | .bold => 0
  | .dim => 1
  | .italic => 2
  | .underline => 3
  | .blink => 4
  | .blink2 => 5
  | .reverse => 6
  | .conceal => 7
  | .strike => 8
  | .underline2 => 9
  | .frame => 10
  | .encircle => 11
  | .overline => 12

/-- The name of an attribute. -/
def name : Attribute → String
  | .bold => "bold"
  | .dim => "dim"
  | .italic => "italic"
  | .underline => "underline"
  | .blink => "blink"
  | .blink2 => "blink2"
  | .reverse => "reverse"
  | .conceal => "conceal"
  | .strike => "strike"
  | .underline2 => "underline2"
  | .frame => "frame"
  | .encircle => "encircle"
  | .overline => "overline"

/-- The code that switches an attribute on. -/
def code : Attribute → Nat
  | .bold => 1
  | .dim => 2
  | .italic => 3
  | .underline => 4
  | .blink => 5
  | .blink2 => 6
  | .reverse => 7
  | .conceal => 8
  | .strike => 9
  | .underline2 => 21
  | .frame => 51
  | .encircle => 52
  | .overline => 53

/-- Short names of attributes. -/
def shortNames : List (String × Attribute) := [
  ("d", .dim), ("b", .bold), ("i", .italic), ("u", .underline), ("r", .reverse),
  ("c", .conceal), ("s", .strike), ("uu", .underline2), ("o", .overline)]

/-- The attribute of a name or a short name. -/
def ofName? (word : Text) : Option Attribute :=
  match all.find? fun trait => trait.name.toList == word with
  | some trait => some trait
  | none => (shortNames.find? fun entry => entry.1.toList == word).map Prod.snd

end Attribute

/-- What a style decides: attributes it sets on or off, colours, and the address of a link. -/
structure Style where
  attributes : Vector (Option Bool) 13 := Vector.replicate 13 none
  foreground : Option Colour := none
  background : Option Colour := none
  link : Option Text := none
  deriving DecidableEq

namespace Style

/-- The style that decides nothing. -/
def null : Style := {}

/-- Whether a style decides nothing. -/
def isNull (style : Style) : Bool :=
  style == null

/-- How a style sets an attribute. -/
def get (style : Style) (trait : Attribute) : Option Bool :=
  style.attributes[trait.index]

/-- Set an attribute on or off. -/
def set (style : Style) (trait : Attribute) (on : Bool) : Style :=
  { style with attributes := style.attributes.set trait.index (some on) }

/-- Put `upper` over `lower`: the upper style decides wherever it decides anything. -/
def under (lower upper : Style) : Style where
  attributes := Vector.zipWith (fun new old => new <|> old) upper.attributes lower.attributes
  foreground := upper.foreground <|> lower.foreground
  background := upper.background <|> lower.background
  link := upper.link <|> lower.link

/-- Putting the same style over twice changes nothing more. -/
theorem under_under
    (lower upper : Style) :
    (lower.under upper).under upper = lower.under upper := by
  unfold under
  congr 1
  · apply Vector.ext
    intro i bound
    simp only [Vector.getElem_zipWith]
    cases upper.attributes[i] <;> simp
  · cases upper.foreground <;> simp
  · cases upper.background <;> simp
  · cases upper.link <;> simp

/-- The null style over another decides nothing. -/
@[simp] theorem under_null (style : Style) : style.under null = style := by
  cases style
  simp only [under, null, mk.injEq]
  refine ⟨Vector.ext fun i bound => ?_, ?_, ?_, ?_⟩ <;> simp

/-- Over the null style, the upper style decides alone. -/
@[simp] theorem null_under (style : Style) : null.under style = style := by
  cases style
  simp only [under, null, mk.injEq]
  refine ⟨Vector.ext fun i bound => ?_, ?_, ?_, ?_⟩ <;> simp

/-- The null style is the one that decides nothing. -/
theorem eq_null_of_isNull {style : Style} (isNull : style.isNull = true) : style = null := by
  simpa [Style.isNull] using isNull

/-- The attributes a style sets on, in order. -/
def switchedOn (style : Style) : List Attribute :=
  Attribute.all.filter fun trait => style.get trait == some true

/-- The codes that select a style on a terminal of the given system. -/
def codes (system : ColourSystem) (style : Style) : List Nat :=
  let colourCodes (foreground : Bool) (colour : Option Colour) : List Nat :=
    match colour with
    | none => []
    | some chosen => Colour.codes foreground (chosen.shownIn system)
  style.switchedOn.map Attribute.code ++
    colourCodes true style.foreground ++ colourCodes false style.background

/-- Put a separator between consecutive texts. -/
def separated (separator : Text) : List Text → Text
  | [] => []
  | [last] => last
  | first :: next :: rest => first ++ separator ++ separated separator (next :: rest)

/-- The codes of a style joined by semicolons. -/
def codeText (system : ColourSystem) (style : Style) : Text :=
  separated [';'] ((style.codes system).map (Nat.toDigits 10))

/-- The words a style decides its attributes by. -/
def attributeWords (style : Style) : List Text :=
  Attribute.all.filterMap fun trait =>
    (style.get trait).map fun on =>
      (if on then trait.name else "not " ++ trait.name).toList

/-- A style in words: attributes, the colour, `on` and the background, `link` and the address. -/
def text (style : Style) : Text :=
  let foreground := match style.foreground with
    | none => []
    | some colour => [colour.name]
  let background := match style.background with
    | none => []
    | some colour => ["on".toList, colour.name]
  let link := match style.link with
    | none => []
    | some address => ["link".toList, address]
  let words := style.attributeWords ++ foreground ++ background ++ link
  if words.isEmpty then "none".toList else separated [' '] words

end Style

end Splice
