import Splice.Number.Notation

namespace Splice.Double

/-!
# Numbers with a given count of digits

A floating-point number with a fixed count of places after the point, or with a
fixed count of significant digits and an exponent.  Both round the exact value;
half-way between two candidates the even digit is taken.
-/

/-- A point with the digits behind it; without digits the point stands only if it is to be kept. -/
def pointed (keepPoint : Bool) (digits : Text) : Text :=
  if digits.isEmpty && !keepPoint then [] else '.' :: digits

/-- `mantissa * 2 ^ exponent` with `places` digits after the point. -/
def fixedDigits (keepPoint : Bool) (mantissa : Nat) (exponent : Int) (places : Nat) : Text :=
  let parts := fraction mantissa exponent
  let scaled := nearest (parts.1 * Nat.pow 10 places) parts.2
  let whole := natText (scaled / Nat.pow 10 places)
  let back := if places = 0 then [] else zeroPadded places (scaled % Nat.pow 10 places)
  whole ++ pointed keepPoint back

/-- The decimal of a positive number with `count` significant digits. -/
def significant (mantissa : Nat) (exponent : Int) (count : Nat) : Decimal :=
  let parts := fraction mantissa exponent
  let power := leadingPower parts.1 parts.2 - count + 1
  let digits :=
    if power < 0 then nearest (parts.1 * Nat.pow 10 (-power).toNat) parts.2
    else nearest parts.1 (parts.2 * Nat.pow 10 power.toNat)
  if digits = Nat.pow 10 count then ⟨Nat.pow 10 (count - 1), power + 1⟩ else ⟨digits, power⟩

/-- The same with zero, whose digits are all zeros. -/
def significantOrZero (mantissa : Nat) (exponent : Int) (count : Nat) : Text × Int :=
  if mantissa = 0 then (List.replicate count '0', 0)
  else
    let decimal := significant mantissa exponent count
    (natText decimal.digits, decimal.power + count - 1)

/-- One digit, a point, `places` digits and an exponent. -/
def scientificDigits (keepPoint : Bool) (mantissa : Nat) (exponent : Int) (places : Nat) : Text :=
  let found := significantOrZero mantissa exponent (places + 1)
  found.1.take 1 ++ pointed keepPoint (found.1.drop 1) ++ 'e' :: exponentText found.2

/-- Drop the zeros after the point, and the point when nothing is left behind it. -/
def dropTrailingZeros (t : Text) : Text :=
  if t.contains '.' then
    let kept := t.reverse.dropWhile (· == '0')
    (match kept with
      | '.' :: rest => rest
      | other => other).reverse
  else t

/--
The shorter of the two forms: positional while the power of the leading digit
lies from -4 to below `count`, with an exponent otherwise.  Zeros at the end, and
a point with nothing behind it, are dropped unless `keepZeros`.
-/
def generalDigits (keepZeros : Bool) (mantissa : Nat) (exponent : Int) (count : Nat) : Text :=
  let count := if count = 0 then 1 else count
  let found := significantOrZero mantissa exponent count
  let tidy (t : Text) : Text := if keepZeros then t else dropTrailingZeros t
  if -4 ≤ found.2 ∧ found.2 < count then
    let places := (count - 1 - found.2).toNat
    tidy (fixedDigits keepZeros mantissa exponent places)
  else
    tidy (found.1.take 1 ++ pointed keepZeros (found.1.drop 1)) ++ 'e' :: exponentText found.2

end Splice.Double
