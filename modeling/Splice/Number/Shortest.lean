import Splice.Number.Double

namespace Splice.Double

/-!
# The fewest digits that read back

Of all decimals that round to a given floating-point number, the shortest is
the one with the fewest significant digits and, of those, the nearest to the
number.  A decimal rounds to the number when it lies in the interval between
the number's two half-way points, whose ends belong to it exactly when the
mantissa is even.  For each count of digits only the two neighbours of the
number on that decimal grid can be nearest, so only they are tested.
-/

/-- A decimal: the value is `digits * 10 ^ power`. -/
structure Decimal where
  digits : Nat
  power : Int
  deriving DecidableEq

/-- The decimals that round to a number, as fractions over one denominator. -/
structure RoundingInterval where
  low : Nat
  value : Nat
  high : Nat
  den : Nat
  closed : Bool

/-- The interval of a positive number: below a power of two the neighbours are twice as close. -/
def roundingInterval (mantissa : Nat) (exponent : Int) : RoundingInterval :=
  let narrow := mantissa = Nat.pow 2 52 ∧ leastExponent < exponent
  let unit := fraction 1 (exponent - 2)
  { low := (4 * mantissa - if narrow then 1 else 2) * unit.1
    value := 4 * mantissa * unit.1
    high := (4 * mantissa + 2) * unit.1
    den := unit.2
    closed := mantissa % 2 = 0 }

/-- Whether `digits * 10 ^ power` rounds to the number of the interval. -/
def RoundingInterval.holds (interval : RoundingInterval) (decimal : Decimal) : Bool :=
  let scaled := fun (n : Nat) => if decimal.power < 0 then n * Nat.pow 10 (-decimal.power).toNat else n
  let candidate :=
    if decimal.power < 0 then decimal.digits * interval.den
    else decimal.digits * Nat.pow 10 decimal.power.toNat * interval.den
  if interval.closed then
    scaled interval.low ≤ candidate && candidate ≤ scaled interval.high
  else
    scaled interval.low < candidate && candidate < scaled interval.high

/-- How many decimal digits a number has. -/
def digitCount (n : Nat) : Nat :=
  (Nat.toDigits 10 n).length

/-- The power of ten of the leading digit of `num / den`. -/
def leadingPower (num den : Nat) : Int :=
  (digitCount (num * Nat.pow 10 400 / den) : Int) - 401

/-- The nearer of the two neighbours of the number on the grid of `10 ^ power` that rounds to it, if one does. -/
def RoundingInterval.onGrid? (interval : RoundingInterval) (power : Int) : Option Decimal :=
  let num := if power < 0 then interval.value * Nat.pow 10 (-power).toNat else interval.value
  let den := if power < 0 then interval.den else interval.den * Nat.pow 10 power.toNat
  let below : Decimal := ⟨num / den, power⟩
  let above : Decimal := ⟨num / den + 1, power⟩
  let nearerBelow := 2 * (num % den) < den || (2 * (num % den) == den && below.digits % 2 == 0)
  match interval.holds below, interval.holds above with
  | true, true => some (if nearerBelow then below else above)
  | true, false => some below
  | false, true => some above
  | false, false => none

/-- The first hit among the grids of `count`, `count + 1`, … digits; seventeen digits always hit. -/
def RoundingInterval.shortestFrom (interval : RoundingInterval) (lead : Int) : (tries count : Nat) → Decimal
  | 0, count => ⟨interval.value / interval.den, count⟩
  | tries + 1, count =>
      match interval.onGrid? (lead - count + 1) with
      | some decimal => decimal
      | none => interval.shortestFrom lead tries (count + 1)

/-- The shortest decimal that reads back as a positive number. -/
def shortest (mantissa : Nat) (exponent : Int) : Decimal :=
  let interval := roundingInterval mantissa exponent
  interval.shortestFrom (leadingPower interval.value interval.den) 17 1

/-- The same decimal without zeros at the end of its digits. -/
def Decimal.stripZeros (decimal : Decimal) : Decimal :=
  let digits := Nat.toDigits 10 decimal.digits
  let zeros := (digits.reverse.takeWhile (· == '0')).length
  ⟨decimal.digits / Nat.pow 10 zeros, decimal.power + zeros⟩

example : shortest 1 (-1074) = ⟨5, -324⟩ := by decide +kernel
example : shortest (3 * 2 ^ 51) (-52) = ⟨15, -1⟩ := by decide +kernel

end Splice.Double
