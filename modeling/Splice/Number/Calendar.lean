import Splice.Number.Notation

namespace Splice

/-!
# Days and times of day

Dates of the Gregorian calendar, extended to all years, and their count of days
from the first of January 1970.  The count goes by years that begin in March, so
that a leap day is the last day of its year.
-/

/-- A day of the calendar. -/
structure Date where
  year : Int
  month : Nat
  day : Nat
  deriving DecidableEq

/-- A time of day, with a possible offset from universal time in minutes. -/
structure Moment where
  date : Date
  hour : Nat
  minute : Nat
  second : Nat
  micro : Nat
  offset : Option Int
  deriving DecidableEq

namespace Date

/-- Whether a year has a leap day. -/
def isLeap (year : Int) : Bool :=
  year % 4 == 0 && (year % 100 != 0 || year % 400 == 0)

/-- The length of a month. -/
def daysInMonth (year : Int) (month : Nat) : Nat :=
  if month = 2 then (if isLeap year then 29 else 28)
  else if month = 4 ∨ month = 6 ∨ month = 9 ∨ month = 11 then 30
  else 31

/-- The date that lies `days` days after the first of January 1970. -/
def ofDayNumber (days : Int) : Date :=
  let shifted := days + 719468
  let era := shifted.fdiv 146097
  let dayOfEra := (shifted - era * 146097).toNat
  let yearOfEra := (dayOfEra - dayOfEra / 1460 + dayOfEra / 36524 - dayOfEra / 146096) / 365
  let dayOfYear := dayOfEra - (365 * yearOfEra + yearOfEra / 4 - yearOfEra / 100)
  let monthFromMarch := (5 * dayOfYear + 2) / 153
  let day := dayOfYear - (153 * monthFromMarch + 2) / 5 + 1
  let month := if monthFromMarch < 10 then monthFromMarch + 3 else monthFromMarch - 9
  let year := (yearOfEra : Int) + era * 400 + (if month ≤ 2 then 1 else 0)
  ⟨year, month, day⟩

/-- Year, month and day with hyphens. -/
def text (date : Date) : Text :=
  zeroPadded 4 date.year.toNat ++ '-' :: zeroPadded 2 date.month ++ '-' :: zeroPadded 2 date.day

example : ofDayNumber 0 = ⟨1970, 1, 1⟩ := by decide
example : ofDayNumber (-1) = ⟨1969, 12, 31⟩ := by decide
example : ofDayNumber 11016 = ⟨2000, 2, 29⟩ := by decide

end Date

namespace Moment

/-- The moment that lies so many seconds after the start of 1970, in universal time. -/
def ofSeconds (seconds : Int) (micro : Nat) : Moment :=
  let days := seconds.fdiv 86400
  let rest := (seconds - days * 86400).toNat
  { date := Date.ofDayNumber days
    hour := rest / 3600
    minute := rest / 60 % 60
    second := rest % 60
    micro := micro
    offset := some 0 }

/-- Hours, minutes and seconds with colons. -/
def clockText (moment : Moment) : Text :=
  zeroPadded 2 moment.hour ++ ':' :: zeroPadded 2 moment.minute ++ ':' :: zeroPadded 2 moment.second

/-- An offset from universal time: a sign, hours and minutes. -/
def offsetText (offset : Int) : Text :=
  let minutes := offset.natAbs
  (if offset < 0 then '-' else '+') :: zeroPadded 2 (minutes / 60) ++ ':' :: zeroPadded 2 (minutes % 60)

/-- Date and time with a separator; microseconds are shown only when there are some. -/
def text (separator : Char) (moment : Moment) : Text :=
  let micros := if moment.micro = 0 then [] else '.' :: zeroPadded 6 moment.micro
  let offset := match moment.offset with
    | none => []
    | some minutes => offsetText minutes
  moment.date.text ++ separator :: moment.clockText ++ micros ++ offset

end Moment

end Splice
