import Splice.Style.ColourNames
import Splice.Text.Digit
import Splice.Text.Lowercase
import Splice.Text.Quoted

namespace Splice

/-!
# Colours

A colour is the terminal's default, one of 256 numbered colours, or a direct mix
of red, green and blue; it remembers the text it was named by.  The first sixteen
numbers are the standard colours.  A terminal that knows no mixes shows the grey or
the colour of the cube that comes close to a mix, and one that knows only the standard
colours shows the one of them that lies nearest.
-/

/-- Which colours a terminal can show. -/
inductive ColourSystem where
  | standard
  | eightBit
  | trueColour
  deriving DecidableEq, Inhabited

namespace ColourSystem

/-- All colour systems, in the order in which a message lists them. -/
def all : List ColourSystem := [.eightBit, .standard, .trueColour]

/-- The name of a colour system in settings. -/
def name : ColourSystem → String
  | .standard => "standard"
  | .eightBit => "256"
  | .trueColour => "truecolor"

/-- The colour system of a name. -/
def ofName? (name : String) : Option ColourSystem :=
  all.find? fun system => system.name == name

/-- Reading the name of a colour system gives it back. -/
theorem ofName?_name (system : ColourSystem) : ofName? system.name = some system := by
  cases system <;> decide +kernel

end ColourSystem

/-- What a colour stands for. -/
inductive Hue where
  | terminalDefault
  | numbered (n : Nat)
  | direct (red green blue : Nat)
  deriving DecidableEq

/-- A colour with the text that named it. -/
structure Colour where
  name : Text
  hue : Hue
  deriving DecidableEq

/-- Why a text names no colour. -/
inductive ColourFault where
  | unknown (word : Text)
  | numberRange (word : Text)
  | componentCount (word : Text)
  | componentRange (word : Text)
  | notInteger (component : Text)
  deriving DecidableEq

namespace Colour

/-- The numbered colour with the text that names it by its number. -/
def numbered (n : Nat) : Colour :=
  ⟨"color(".toList ++ Nat.toDigits 10 n ++ [')'], .numbered n⟩

/-- A numbered colour by one of its names. -/
def ofName? (word : Text) : Option Colour :=
  (names.find? fun entry => entry.1.toList == word).map fun entry => ⟨word, .numbered entry.2⟩

/-- What stands between a given beginning and a closing parenthesis at the end. -/
def argument? (start : String) (word : Text) : Option Text :=
  if start.toList.isPrefixOf word && word.getLast? == some ')' then
    some ((word.drop start.length).dropLast)
  else none

/-- The value of a lower-case hexadecimal digit. -/
def hexValue? (c : Char) : Option Nat :=
  if '0' ≤ c ∧ c ≤ '9' then some (c.toNat - '0'.toNat)
  else if 'a' ≤ c ∧ c ≤ 'f' then some (c.toNat - 'a'.toNat + 10)
  else none

/-- The colour of six hexadecimal digits. -/
def ofHexDigits? : List Nat → Option Hue
  | [r, s, g, h, b, c] => some (.direct (16 * r + s) (16 * g + h) (16 * b + c))
  | _ => none

/-- A colour written as a number sign and six hexadecimal digits. -/
def ofHex? : Text → Option Hue
  | '#' :: digits => (digits.mapM hexValue?).bind ofHexDigits?
  | _ => none

/-- The number of a colour named by one to three ASCII digits. -/
def number? (digits : Text) : Option Nat :=
  if 1 ≤ digits.length ∧ digits.length ≤ 3 ∧ digits.all Char.isDigit then Text.decimal? digits
  else none

/-- Whether a text may be the components of a mixed colour: digits of any script, commas and blanks. -/
def isComponents (t : Text) : Bool :=
  !t.isEmpty && t.all fun c => (Text.digitValue? c).isSome || c == ',' || Text.isBlank c

/-- The components of a mixed colour, which `word` spells as a whole. -/
def ofComponents (word components : Text) : Except ColourFault Hue := do
  let parts := Text.splitWhere (· == ',') components
  let number (part : Text) : Except ColourFault Nat :=
    match Text.integer? part with
    | some n => .ok n.toNat
    | none => .error (.notInteger part)
  match parts with
  | [red, green, blue] =>
      let r ← number red
      let g ← number green
      let b ← number blue
      if r ≤ 255 ∧ g ≤ 255 ∧ b ≤ 255 then return .direct r g b
      else .error (.componentRange word)
  | _ => .error (.componentCount word)

/--
Read a colour in lower case: `default`, `#` and six hexadecimal digits, `color` with a number,
`rgb` with three numbers, or the name of a numbered colour.  Names are made of letters, digits and
underscores, so none of them has another of these forms.
-/
def read (word : Text) : Except ColourFault Colour :=
  let name := Text.lower word
  if name = "default".toList then .ok ⟨name, .terminalDefault⟩
  else
    match ofHex? name, (argument? "color(" name).bind number?, argument? "rgb(" name, ofName? name with
    | some hue, _, _, _ => .ok ⟨name, hue⟩
    | none, some n, _, _ => if n ≤ 255 then .ok ⟨name, .numbered n⟩ else .error (.numberRange name)
    | none, none, some components, _ =>
        if isComponents components then
          (ofComponents word components).map fun hue => ⟨name, hue⟩
        else .error (.unknown word)
    | none, none, none, some colour => .ok colour
    | none, none, none, none => .error (.unknown word)

/-- The standard colour nearest to each numbered colour from 16 on. -/
def nearestStandard : Array Nat := #[
  0, 4, 4, 4, 4, 4, 2, 8, 8, 6, 12, 12, 2, 6, 6, 6, 6, 12, 2, 6, 6, 6, 6, 6, 2, 10, 6, 6, 6, 14, 2, 10, 10, 6, 14, 14,
  1, 5, 5, 5, 5, 12, 3, 8, 8, 12, 12, 12, 3, 8, 8, 7, 12, 12, 2, 10, 7, 7, 7, 14, 10, 10, 10, 7, 14, 14, 10, 10, 10, 14, 14, 14,
  1, 5, 5, 5, 5, 5, 3, 8, 8, 12, 12, 12, 3, 8, 7, 7, 7, 12, 3, 7, 7, 7, 7, 7, 10, 10, 7, 7, 7, 14, 10, 10, 10, 14, 14, 14,
  1, 5, 5, 5, 5, 5, 3, 9, 9, 7, 13, 13, 3, 7, 7, 7, 7, 7, 3, 7, 7, 7, 7, 7, 11, 7, 7, 7, 7, 15, 11, 11, 11, 7, 15, 15,
  1, 5, 5, 5, 5, 5, 3, 9, 9, 13, 13, 13, 3, 9, 7, 7, 7, 13, 3, 7, 7, 7, 7, 7, 11, 11, 11, 7, 15, 15, 11, 11, 11, 15, 15, 15,
  1, 9, 5, 5, 5, 13, 9, 9, 9, 13, 13, 13, 9, 9, 9, 13, 13, 13, 11, 11, 7, 7, 7, 15, 11, 11, 11, 15, 15, 15, 11, 11, 11, 15, 15, 15,
  0, 0, 0, 0, 8, 8, 8, 8, 8, 8, 8, 8, 7, 7, 7, 7, 7, 7, 7, 7, 7, 15, 15, 15]

/-- The mixes of the standard colours. -/
def standardMixes : Array (Nat × Nat × Nat) := #[
  (0, 0, 0), (170, 0, 0), (0, 170, 0), (170, 85, 0), (0, 0, 170), (170, 0, 170),
  (0, 170, 170), (170, 170, 170), (85, 85, 85), (255, 85, 85), (85, 255, 85), (255, 255, 85),
  (85, 85, 255), (255, 85, 255), (85, 255, 255), (255, 255, 255)]

/-- How far apart two amounts are. -/
def apart (left right : Nat) : Nat :=
  max left right - min left right

/-- How far a mix looks from a standard colour: red and blue weigh by how much red there is. -/
def distance (red green blue : Nat) (standard : Nat × Nat × Nat) : Nat :=
  let meanRed := (red + standard.1) / 2
  let redApart := apart red standard.1
  let greenApart := apart green standard.2.1
  let blueApart := apart blue standard.2.2
  (512 + meanRed) * redApart * redApart / 256 + 4 * greenApart * greenApart +
    (767 - meanRed) * blueApart * blueApart / 256

/-- The standard colour nearest to a mix, the first one of several. -/
def standardOf (red green blue : Nat) : Nat :=
  let far (n : Nat) : Nat := distance red green blue (standardMixes.getD n (0, 0, 0))
  (List.range 16).foldl (fun best n => if far n < far best then n else best) 0

/-- A quotient rounded to the nearest number, halves to the even one. -/
def roundedQuotient (n d : Nat) : Nat :=
  let q := n / d
  let twice := 2 * (n % d)
  if twice < d then q else if d < twice then q + 1 else q + q % 2

/--
Whether a mix is so pale that it counts as grey: its saturation lies below 15 per cent.  At
three pairs of a largest and a smallest amount that lie on the bound, the quotient of
floating-point numbers comes out below it.
-/
def isPale (largest smallest : Nat) : Bool :=
  let sum := largest + smallest
  let reach := if sum ≤ 255 then sum else 510 - sum
  largest == smallest || 20 * (largest - smallest) < 3 * reach ||
    [(69, 51), (138, 102), (170, 140)].contains (largest, smallest)

/-- The step of the cube nearest to an amount. -/
def cubeStep (amount : Nat) : Nat :=
  if amount < 95 then roundedQuotient amount 95 else roundedQuotient (amount - 55) 40

/-- The grey that a pale mix, or the colour of the cube that any other mix comes close to. -/
def eightBitOf (red green blue : Nat) : Nat :=
  let largest := max red (max green blue)
  let smallest := min red (min green blue)
  if isPale largest smallest then
    let grey := roundedQuotient (5 * (largest + smallest)) 102
    if grey = 0 then 16 else 231 + if grey = 25 then 0 else grey
  else 16 + 36 * cubeStep red + 6 * cubeStep green + cubeStep blue

/-- A colour as a terminal of the given system shows it. -/
def shownIn (system : ColourSystem) (colour : Colour) : Hue :=
  match system, colour.hue with
  | .standard, .numbered n => if n < 16 then .numbered n else .numbered (nearestStandard.getD (n - 16) 0)
  | .standard, .direct red green blue => .numbered (standardOf red green blue)
  | .eightBit, .direct red green blue => .numbered (eightBitOf red green blue)
  | _, hue => hue

/-- The codes that select a hue for the text or for its background. -/
def codes (foreground : Bool) : Hue → List Nat
  | .terminalDefault => [if foreground then 39 else 49]
  | .numbered n =>
      if n < 8 then [(if foreground then 30 else 40) + n]
      else if n < 16 then [(if foreground then 82 else 92) + n]
      else [if foreground then 38 else 48, 5, n]
  | .direct red green blue => [if foreground then 38 else 48, 2, red, green, blue]

end Colour

/-- What is said about a text that names no colour. -/
def ColourFault.message : ColourFault → String
  | .unknown word => s!"{String.ofList (Text.quoted word)} is not a valid color"
  | .numberRange word => s!"color number must be <= 255 in {String.ofList (Text.quoted word)}"
  | .componentCount word => s!"expected three components in {String.ofList (Text.quoted word)}"
  | .componentRange word => s!"color components must be <= 255 in {String.ofList (Text.quoted word)}"
  | .notInteger component =>
      s!"invalid literal for int() with base 10: {String.ofList (Text.quoted component)}"

end Splice
