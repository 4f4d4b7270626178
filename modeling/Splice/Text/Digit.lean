import Splice.Text.Blank

namespace Splice.Text

/-!
# Digits of every script

Unicode knows two kinds of digit.  A *decimal* digit belongs to a row of ten
consecutive characters and has a value from 0 to 9; the zeros of those rows are
listed in `decimalZeros`.  Superscripts, circled digits and their like only look
like digits: `isDigit` accepts them, `digitValue?` does not.
-/

/-- The zero of each row of ten decimal digits. -/
def decimalZeros : List Nat := [
  0x30, 0x660, 0x6F0, 0x7C0, 0x966, 0x9E6, 0xA66, 0xAE6,
  0xB66, 0xBE6, 0xC66, 0xCE6, 0xD66, 0xDE6, 0xE50, 0xED0,
  0xF20, 0x1040, 0x1090, 0x17E0, 0x1810, 0x1946, 0x19D0, 0x1A80,
  0x1A90, 0x1B50, 0x1BB0, 0x1C40, 0x1C50, 0xA620, 0xA8D0, 0xA900,
  0xA9D0, 0xA9F0, 0xAA50, 0xABF0, 0xFF10, 0x104A0, 0x10D30, 0x11066,
  0x110F0, 0x11136, 0x111D0, 0x112F0, 0x11450, 0x114D0, 0x11650, 0x116C0,
  0x11730, 0x118E0, 0x11950, 0x11C50, 0x11D50, 0x11DA0, 0x16A60, 0x16AC0,
  0x16B50, 0x1D7CE, 0x1D7D8, 0x1D7E2, 0x1D7EC, 0x1D7F6, 0x1E140, 0x1E2F0,
  0x1E950, 0x1FBF0]

/-- Digits that belong to no row of ten: first and last of each run. -/
def lookalikeDigits : List (Nat × Nat) := [
  (0xB2, 0xB3), (0xB9, 0xB9), (0x1369, 0x1371), (0x19DA, 0x19DA),
  (0x2070, 0x2070), (0x2074, 0x2079), (0x2080, 0x2089), (0x2460, 0x2468),
  (0x2474, 0x247C), (0x2488, 0x2490), (0x24EA, 0x24EA), (0x24F5, 0x24FD),
  (0x24FF, 0x24FF), (0x2776, 0x277E), (0x2780, 0x2788), (0x278A, 0x2792),
  (0x10A40, 0x10A43), (0x10E60, 0x10E68), (0x11052, 0x1105A), (0x1F100, 0x1F10A)]

/-- The value of a decimal digit of any script. -/
def digitValue? (c : Char) : Option Nat :=
  (decimalZeros.find? fun row => row ≤ c.toNat && c.toNat < row + 10).map
    fun row => c.toNat - row

/-- Digits of either kind. -/
def isDigit (c : Char) : Bool :=
  (digitValue? c).isSome ||
    lookalikeDigits.any fun run => run.1 ≤ c.toNat && c.toNat ≤ run.2

/-- Whether a text is a non-empty run of digits of either kind. -/
def allDigits (t : Text) : Bool :=
  !t.isEmpty && t.all isDigit

/-- The value of a run of decimal digits read after `front`; any other character refuses the run. -/
def decimalFrom? : (front : Nat) → Text → Option Nat
  | front, [] => some front
  | front, c :: rest => (digitValue? c).bind fun value => decimalFrom? (10 * front + value) rest

/-- The number written by a non-empty run of decimal digits. -/
def decimal? (t : Text) : Option Nat :=
  if t.isEmpty then none else decimalFrom? 0 t

/-- Drop the single underscores that stand between two other characters; any other underscore refuses the text. -/
def dropSeparators? (t : Text) : Option Text :=
  let parts := splitWhere (· == '_') t
  if parts.any List.isEmpty then none else some parts.flatten

/-- Blanks that may stand around a number: the four information separators may not. -/
def isNumberBlank (c : Char) : Bool :=
  isBlank c && !(0x1C ≤ c.toNat && c.toNat ≤ 0x1F)

/-- Drop the blanks that may stand around a number. -/
def trimNumber (t : Text) : Text :=
  ((t.dropWhile isNumberBlank).reverse.dropWhile isNumberBlank).reverse

/--
The integer a text spells: blanks at both ends are dropped, one sign may stand
in front, and single underscores may stand between two digits.
-/
def integer? (t : Text) : Option Int :=
  let unsigned (digits : Text) : Option Nat := (dropSeparators? digits).bind decimal?
  match trimNumber t with
  | '-' :: digits => (unsigned digits).map fun n => -(n : Int)
  | '+' :: digits => (unsigned digits).map Int.ofNat
  | digits => (unsigned digits).map Int.ofNat

end Splice.Text
