import Splice.Number.Shortest
import Splice.Text.Digit
import Splice.Text.Lowercase

namespace Splice

/-!
# Decimal notation of numbers

How integers and floating-point numbers are written and read.  A floating-point
number is written with the fewest digits that read back; it is positional while
the power of its leading digit lies from -4 to 15, and otherwise has an exponent
of a sign and at least two digits.  A positional number keeps one digit after
the point.
-/

/-- The decimal digits of a natural number. -/
def natText (n : Nat) : Text :=
  Nat.toDigits 10 n

/-- An integer in decimal, with a minus sign when it is negative. -/
def intText : Int → Text
  | .ofNat n => natText n
  | .negSucc n => '-' :: natText (n + 1)

/-- Digits filled up with zeros in front to a least width. -/
def zeroPadded (width : Nat) (n : Nat) : Text :=
  let digits := natText n
  List.replicate (width - digits.length) '0' ++ digits

namespace Double

/-- The sign and digits of an exponent. -/
def exponentText (power : Int) : Text :=
  (if power < 0 then '-' else '+') :: zeroPadded 2 power.natAbs

/-- A decimal with `power` as the power of its leading digit, positional or with an exponent. -/
def layoutDigits (digits : Text) (power : Int) : Text :=
  if -4 ≤ power ∧ power < 16 then
    if power < 0 then
      "0.".toList ++ List.replicate (-power - 1).toNat '0' ++ digits
    else
      let whole := power.toNat + 1
      let front := digits.take whole ++ List.replicate (whole - digits.length) '0'
      let back := digits.drop whole
      front ++ '.' :: (if back.isEmpty then ['0'] else back)
  else
    let mantissa :=
      match digits with
      | [] => []
      | [only] => [only]
      | first :: rest => first :: '.' :: rest
    mantissa ++ 'e' :: exponentText power

/-- The text of a floating-point number. -/
def text : Double → Text
  | .nan => "nan".toList
  | .infinite negative => (if negative then "-inf" else "inf").toList
  | .finite negative mantissa exponent =>
      let unsigned :=
        if mantissa = 0 then "0.0".toList
        else
          let decimal := (shortest mantissa exponent).stripZeros
          let digits := natText decimal.digits
          layoutDigits digits (decimal.power + digits.length - 1)
      if negative then '-' :: unsigned else unsigned

/-- A run of digits in which single underscores may separate digits; the empty run is zero. -/
def digitRun? (t : Text) : Option (Nat × Nat) :=
  if t.isEmpty then some (0, 0)
  else (Text.dropSeparators? t).bind fun digits =>
    (Text.decimal? digits).map fun n => (n, digits.length)

/-- The exponent part after its letter: an optional sign and at least one digit. -/
def exponent? (t : Text) : Option Int :=
  match t with
  | '-' :: digits => if digits.isEmpty then none else (digitRun? digits).map fun run => -(run.1 : Int)
  | '+' :: digits => if digits.isEmpty then none else (digitRun? digits).map fun run => (run.1 : Int)
  | digits => if digits.isEmpty then none else (digitRun? digits).map fun run => (run.1 : Int)

/-- Read a number without its sign. -/
def unsigned? (negative : Bool) (t : Text) : Option Double :=
  let word := Text.lower t
  if word = "inf".toList || word = "infinity".toList then some (.infinite negative)
  else if word = "nan".toList then some .nan
  else
    let isMark (c : Char) : Bool := c == 'e' || c == 'E'
    let mantissa := t.takeWhile fun c => !isMark c
    let power? : Option Int :=
      match t.dropWhile fun c => !isMark c with
      | [] => some 0
      | _ :: rest => exponent? rest
    let whole := mantissa.takeWhile (· != '.')
    let part := (mantissa.dropWhile (· != '.')).drop 1
    if whole.isEmpty && part.isEmpty then none
    else do
      let power ← power?
      let front ← digitRun? whole
      let back ← digitRun? part
      return ofDecimal negative (front.1 * Nat.pow 10 back.2 + back.1) (power - back.2)

/-- Read a floating-point number: blanks around it, a sign, digits with an optional point and exponent, or a word. -/
def read? (t : Text) : Option Double :=
  match Text.trim t with
  | '-' :: rest => unsigned? true rest
  | '+' :: rest => unsigned? false rest
  | rest => unsigned? false rest

end Double

end Splice
