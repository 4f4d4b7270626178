import Splice.Style.Basic

namespace Splice.Palette

/-!
# The palette

Places are told apart by background colour.  The palette begins with the
standard colours that read well as a background and goes on with the colour
cube, shuffled so that neighbours in the palette look different.  Numbers beyond
its end start again at its beginning.
-/

/-- Standard colours without black, grey and white. -/
def standard : List Nat := [1, 2, 3, 4, 5, 6, 9, 10, 11, 12, 13, 14, 15]

/-- The colour cube in shuffled order. -/
def extended : List Nat := [
  21, 127, 82, 190, 196, 58, 205, 201, 188, 202, 60, 95, 161, 100, 129, 162, 72, 225,
  222, 23, 219, 194, 166, 20, 24, 148, 155, 197, 132, 61, 149, 221, 108, 139, 145, 138,
  146, 87, 173, 142, 184, 101, 34, 102, 185, 68, 55, 169, 203, 158, 16, 124, 213, 98,
  164, 96, 151, 172, 181, 135, 79, 113, 19, 147, 192, 137, 206, 144, 186, 183, 214, 40,
  62, 230, 103, 54, 128, 33, 78, 99, 118, 175, 116, 17, 187, 180, 41, 53, 159, 91,
  47, 130, 208, 218, 152, 51, 212, 83, 37, 171, 76, 35, 189, 223, 90, 176, 163, 52,
  43, 125, 178, 120, 123, 200, 109, 195, 229, 92, 39, 32, 153, 168, 165, 117, 84, 44,
  94, 107, 28, 207, 191, 70, 22, 74, 66, 131, 114, 42, 50, 104, 215, 97, 45, 143,
  211, 226, 110, 112, 126, 199, 67, 29, 157, 227, 57, 156, 73, 154, 85, 167, 228, 89,
  141, 80, 77, 18, 93, 224, 174, 63, 115, 65, 49, 106, 36, 75, 193, 182, 150, 81,
  25, 136, 119, 122, 27, 71, 220, 105, 86, 133, 30, 217, 140, 59, 198, 88, 179, 177,
  204, 46, 121, 210, 64, 56, 48, 170, 231, 111, 31, 160, 209, 26, 216, 69, 134, 38]

/-- All colours of the palette in order. -/
def colours : List Nat :=
  standard ++ extended

/-- The number of colours in the palette. -/
def size : Nat := 229

/-- The number of the colour at an index, which may lie beyond either end. -/
def colourNumber (index : Int) : Nat :=
  colours.getD (index % size).toNat 0

/--
The style of an index: the colour as background, with black or white text.
Standard colours take black; a cube colour takes white in the darker half of its
block of 36 and black in the lighter half.
-/
def style (index : Int) : Style :=
  let n := colourNumber index
  let dark := 16 ≤ n ∧ (n - 16) % 36 < 18
  { foreground := some (if dark then ⟨"white".toList, .numbered 7⟩ else ⟨"black".toList, .numbered 0⟩)
    background := some (Colour.numbered n) }

/-- No colour of the palette is a link. -/
@[simp] theorem link_style (index : Int) : (style index).link = none := rfl

/-- The palette has as many colours as its size says. -/
theorem length_colours : colours.length = size := by
  decide +kernel

/-- No colour comes twice. -/
theorem nodup_colours : colours.Nodup := by
  decide +kernel

end Splice.Palette
