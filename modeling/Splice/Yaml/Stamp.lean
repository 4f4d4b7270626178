import Splice.Yaml.Kind

namespace Splice.Yaml

/-!
# Written dates and times

A date is a year of four digits, a month and a day.  A time of day may follow,
and then a fraction of a second and an offset from universal time.
-/

/-- The offset of a written time. -/
inductive WrittenOffset where
  | none
  | universal
  | signed (negative : Bool) (hours minutes : Nat)
  deriving DecidableEq

/-- The time of a written date. -/
structure WrittenTime where
  hour : Nat
  minute : Nat
  second : Nat
  micro : Nat
  offset : WrittenOffset
  deriving DecidableEq

/-- A date as it is written, with a time if there is one. -/
structure Stamp where
  year : Nat
  month : Nat
  day : Nat
  time : Option WrittenTime
  /-- Whether month and day have two digits each. -/
  wide : Bool
  deriving DecidableEq

/-- The number that ASCII digits spell. -/
def digitsValue (digits : Text) : Nat :=
  digits.foldl (fun n c => 10 * n + (c.toNat - '0'.toNat)) 0

/-- Between `least` and `most` digits at the front of a text, and what follows. -/
def digits? (least most : Nat) (t : Text) : Option (Text × Text) :=
  let found := (t.takeWhile Char.isDigit).take most
  if found.length < least then none else some (found, t.drop found.length)

/-- A given character and then digits. -/
def digitsAfter? (mark : Char) (least most : Nat) : Text → Option (Text × Text)
  | c :: rest => if c = mark then digits? least most rest else none
  | [] => none

/-- The microseconds that the digits of a fraction spell. -/
def microseconds (fraction : Text) : Nat :=
  let kept := fraction.take 6
  digitsValue (kept ++ List.replicate (6 - kept.length) '0')

/-- A fraction of a second, if a point follows. -/
def fraction (t : Text) : Nat × Text :=
  match t with
  | '.' :: rest => (microseconds (rest.takeWhile Char.isDigit), rest.dropWhile Char.isDigit)
  | _ => (0, t)

/-- Whether a character is a space or a tab. -/
def isSpaceOrTab (c : Char) : Bool :=
  c == ' ' || c == '\t'

/-- Hours and possibly minutes of an offset, up to the end of the text. -/
def signedOffset? (negative : Bool) (t : Text) : Option WrittenOffset := do
  let (hours, rest) ← digits? 1 2 t
  if rest.isEmpty then return .signed negative (digitsValue hours) 0
  else
    let (minutes, last) ← digitsAfter? ':' 2 2 rest
    if last.isEmpty then return .signed negative (digitsValue hours) (digitsValue minutes) else none

/-- The offset that ends a text, if the text holds nothing else. -/
def offset? (t : Text) : Option WrittenOffset :=
  if t.isEmpty then some .none
  else
    match t.dropWhile isSpaceOrTab with
    | ['Z'] => some .universal
    | '+' :: rest => signedOffset? false rest
    | '-' :: rest => signedOffset? true rest
    | _ => none

/-- The time of day behind a date, which a letter or blanks separate. -/
def time? (t : Text) : Option WrittenTime := do
  let start ← match t with
    | 'T' :: rest => some rest
    | 't' :: rest => some rest
    | c :: rest => if isSpaceOrTab c then some (rest.dropWhile isSpaceOrTab) else none
    | [] => none
  let (hour, rest) ← digits? 1 2 start
  let (minute, rest) ← digitsAfter? ':' 2 2 rest
  let (second, rest) ← digitsAfter? ':' 2 2 rest
  let (micro, rest) := fraction rest
  let offset ← offset? rest
  return ⟨digitsValue hour, digitsValue minute, digitsValue second, micro, offset⟩

/-- The date that a text spells. -/
def stamp? (t : Text) : Option Stamp := do
  let (year, rest) ← digits? 4 4 (withoutFinalFeed t)
  let (month, rest) ← digitsAfter? '-' 1 2 rest
  let (day, rest) ← digitsAfter? '-' 1 2 rest
  let time ← if rest.isEmpty then some none else (time? rest).map some
  return {
    year := digitsValue year
    month := digitsValue month
    day := digitsValue day
    time := time
    wide := month.length = 2 ∧ day.length = 2 }

/-- Whether a text looks like a date: without a time, month and day must have two digits each. -/
def looksStamp (t : Text) : Bool :=
  match stamp? t with
  | some found => found.time.isSome || found.wide
  | none => false

/-- The kind that a plain scalar looks like. -/
def Kind.ofText (text : Text) : Kind :=
  let t := withoutFinalFeed text
  if looksTruth t then .truth
  else if looksFloat t then .float
  else if looksInteger t then .integer
  else if t == "<<".toList then .merge
  else if looksNull t then .null
  else if looksStamp t then .timestamp
  else if t == ['='] then .value
  else if t == ['!'] || t == ['&'] || t == ['*'] then .unknown
  else .text

end Splice.Yaml
