namespace Splice

/-!
# Binary floating-point numbers

A number of the 64-bit format is kept as an exact mantissa and exponent, so that
reading, arithmetic and printing are integer arithmetic.  The mantissa of a
finite number has 53 bits, or fewer when the exponent is the least one; then
every number has one representation.  Every operation is exact arithmetic
followed by `Double.round`, which takes the nearest number and, half-way between
two, the one with an even mantissa.
-/

/-- A floating-point number: its value is `mantissa * 2 ^ exponent`, negated when `negative`. -/
inductive Double where
  | nan
  | infinite (negative : Bool)
  | finite (negative : Bool) (mantissa : Nat) (exponent : Int)
  deriving DecidableEq, Inhabited

namespace Double

/-- The exponent of the least positive number. -/
def leastExponent : Int := -1074

/-- The exponent of the greatest finite numbers. -/
def greatestExponent : Int := 971

/-- Zero, with a sign of its own. -/
def zero (negative : Bool) : Double :=
  .finite negative 0 leastExponent

/-- The integer nearest to `num / den`; half-way between two it is the even one. -/
def nearest (num den : Nat) : Nat :=
  let quotient := num / den
  let twice := 2 * (num % den)
  if twice < den then quotient
  else if twice > den then quotient + 1
  else if quotient % 2 = 0 then quotient else quotient + 1

/-- The exponent of two that leaves 53 bits in front of the binary point of `num / den`. -/
def scaleOf (num den : Nat) : Int :=
  let guess : Int := (num.log2 : Int) - den.log2
  let reaches : Bool :=
    if 0 ≤ guess then den * Nat.pow 2 guess.toNat ≤ num
    else den ≤ num * Nat.pow 2 (-guess).toNat
  max leastExponent ((if reaches then guess else guess - 1) - 52)

/-- The floating-point number nearest to `num / den`. -/
def round (negative : Bool) (num den : Nat) : Double :=
  if num = 0 then zero negative
  else
    let exponent := scaleOf num den
    let mantissa :=
      if 0 ≤ exponent then nearest num (den * Nat.pow 2 exponent.toNat)
      else nearest (num * Nat.pow 2 (-exponent).toNat) den
    let carried := mantissa = Nat.pow 2 53
    let exponent := if carried then exponent + 1 else exponent
    let mantissa := if carried then Nat.pow 2 52 else mantissa
    if greatestExponent < exponent then .infinite negative
    else .finite negative mantissa exponent

/-- The numerator and denominator of `mantissa * 2 ^ exponent`. -/
def fraction (mantissa : Nat) (exponent : Int) : Nat × Nat :=
  if 0 ≤ exponent then (mantissa * Nat.pow 2 exponent.toNat, 1)
  else (mantissa, Nat.pow 2 (-exponent).toNat)

/-- The number nearest to `digits * 10 ^ power`. -/
def ofDecimal (negative : Bool) (digits : Nat) (power : Int) : Double :=
  if digits = 0 then zero negative
  else if 400 < power then .infinite negative
  else if power + (Nat.log2 digits : Int) < -1500 then zero negative
  else if 0 ≤ power then round negative (digits * Nat.pow 10 power.toNat) 1
  else round negative digits (Nat.pow 10 (-power).toNat)

/-- The number nearest to an integer. -/
def ofInt (n : Int) : Double :=
  round (n < 0) n.natAbs 1

/-- The opposite number. -/
def neg : Double → Double
  | .nan => .nan
  | .infinite negative => .infinite !negative
  | .finite negative mantissa exponent => .finite (!negative) mantissa exponent

/-- The number nearest to a signed fraction. -/
def roundSigned (num : Int) (den : Nat) : Double :=
  round (num < 0) num.natAbs den

/-- A finite number as a signed numerator over a denominator. -/
def signedFraction (negative : Bool) (mantissa : Nat) (exponent : Int) : Int × Nat :=
  let parts := fraction mantissa exponent
  (if negative then -(parts.1 : Int) else parts.1, parts.2)

/-- The number nearest to a sum. -/
def add : Double → Double → Double
  | .nan, _ => .nan
  | _, .nan => .nan
  | .infinite left, .infinite right => if left = right then .infinite left else .nan
  | .infinite left, _ => .infinite left
  | _, .infinite right => .infinite right
  | .finite leftSign leftMantissa leftExponent, .finite rightSign rightMantissa rightExponent =>
      let left := signedFraction leftSign leftMantissa leftExponent
      let right := signedFraction rightSign rightMantissa rightExponent
      let num := left.1 * right.2 + right.1 * left.2
      if num = 0 then zero (leftSign && rightSign)
      else roundSigned num (left.2 * right.2)

/-- The number nearest to a product. -/
def mul : Double → Double → Double
  | .nan, _ => .nan
  | _, .nan => .nan
  | .infinite left, .infinite right => .infinite (left != right)
  | .infinite left, .finite right mantissa _ =>
      if mantissa = 0 then .nan else .infinite (left != right)
  | .finite left mantissa _, .infinite right =>
      if mantissa = 0 then .nan else .infinite (left != right)
  | .finite leftSign leftMantissa leftExponent, .finite rightSign rightMantissa rightExponent =>
      let left := fraction leftMantissa leftExponent
      let right := fraction rightMantissa rightExponent
      round (leftSign != rightSign) (left.1 * right.1) (left.2 * right.2)

/-- Whether the value is zero. -/
def isZero : Double → Bool
  | .finite _ mantissa _ => mantissa == 0
  | _ => false

/-- Whether two numbers have the same value: zeros are equal whatever their sign, and no value is nan's. -/
def sameValue : Double → Double → Bool
  | .nan, _ => false
  | _, .nan => false
  | left, right => left == right || (left.isZero && right.isZero)

/-- The integer a number is, if it is one. -/
def toInt? : Double → Option Int
  | .finite negative mantissa exponent =>
      let parts := signedFraction negative mantissa exponent
      if parts.1 % parts.2 = 0 then some (parts.1 / parts.2) else none
  | _ => none

/-- The integer towards zero from a finite number. -/
def truncate? : Double → Option Int
  | .finite negative mantissa exponent =>
      let parts := signedFraction negative mantissa exponent
      some (parts.1.tdiv parts.2)
  | _ => none

example : ofDecimal false 15 (-1) = .finite false (3 * 2 ^ 51) (-52) := by decide +kernel
example : ofDecimal false 5 (-324) = .finite false 1 (-1074) := by decide +kernel
example : ofDecimal false 2 (-324) = zero false := by decide +kernel
example : ofDecimal false 18 307 = .infinite false := by decide +kernel

end Double

end Splice
