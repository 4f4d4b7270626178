import Splice.Number.Calendar

namespace Splice

/-!
# Times of records

A record bears the seconds since the start of 1970 as a floating-point number.
Its fraction is rounded to microseconds, half-way to the even one; the calendar
goes from year 1 to year 9999.
-/

/-- Why a number of seconds is no time. -/
inductive ClockFault where
  | notNumber
  /-- The number does not fit sixty-four bits. -/
  | size
  /-- The year does not fit thirty-two bits. -/
  | yearSize
  | year (n : Int)
  deriving DecidableEq

/-- What is said about a number of seconds that is no time. -/
def ClockFault.message : ClockFault → String
  | .notNumber => "Invalid value NaN (not a number)"
  | .size => "timestamp out of range for platform time_t"
  | .yearSize => "[Errno 75] Value too large for defined data type"
  | .year n => s!"year {n} is out of range"

namespace Moment

/-- The integer nearest to a signed fraction; half-way between two it is the even one. -/
def nearestSigned (num : Int) (den : Nat) : Int :=
  let size : Int := Double.nearest num.natAbs den
  if num < 0 then -size else size

/-- Whole seconds and microseconds of a number of seconds. -/
def secondsAndMicros (num : Int) (den : Nat) : Int × Nat :=
  let whole := num.tdiv den
  let part := Double.roundSigned (num - whole * den) den
  let scaled := part.mul (.ofInt 1000000)
  let micros := match scaled with
    | .finite negative mantissa exponent =>
        let fraction := Double.signedFraction negative mantissa exponent
        nearestSigned fraction.1 fraction.2
    | _ => 0
  if 1000000 ≤ micros then (whole + 1, (micros - 1000000).toNat)
  else if micros < 0 then (whole - 1, (micros + 1000000).toNat)
  else (whole, micros.toNat)

/-- The year as thirty-two bits show it. -/
def shownYear (year : Int) : Int :=
  if 2147483647 < year then year - 4294967296 else year

/-- The moment of whole seconds and microseconds; years are counted from 1900 in thirty-two bits. -/
def ofWholeSeconds (seconds : Int) (micros : Nat) : Except ClockFault Moment :=
  let moment := ofSeconds seconds micros
  let year := moment.date.year
  if year < 1900 - 2147483648 ∨ 1900 + 2147483647 < year then .error .yearSize
  else if year < 1 ∨ 9999 < year then .error (.year (shownYear year))
  else .ok moment

/-- The seconds of a day. -/
def daySeconds : Int := 86400

/--
The moment of a number of seconds.  For a time of the place, the same time a day
earlier has to exist too, because the clock may have been changed in between.
-/
def ofTimestamp (ofPlace : Bool) : Double → Except ClockFault Moment
  | .nan => .error .notNumber
  | .infinite _ => .error .size
  | .finite negative mantissa exponent => do
      let fraction := Double.signedFraction negative mantissa exponent
      let (seconds, micros) := secondsAndMicros fraction.1 fraction.2
      if seconds < -9223372036854775808 ∨ 9223372036854775808 ≤ seconds then throw .size
      let moment ← ofWholeSeconds seconds micros
      if ofPlace then
        let _ ← ofWholeSeconds (seconds - daySeconds) micros
      return moment

end Moment

end Splice
