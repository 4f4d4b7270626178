import Splice.Value.Literal
import Splice.Yaml.Stamp

namespace Splice.Yaml

/-!
# Values of scalars

A scalar whose kind is known is read in the manner of that kind.  Integers may be
written to base two, eight, ten, sixteen and sixty, and floating-point numbers
also to base sixty; underscores in a number do not count.  A decimal integer of more
than 4300 digits is refused.
-/

/-- A number without its underscores. -/
def withoutRules (t : Text) : Text :=
  t.filter (· != '_')

/-- The value of a digit to a base up to sixteen. -/
def digitIn? (base : Nat) (c : Char) : Option Nat :=
  let value? := match Text.digitValue? c with
    | some value => some value
    | none => if isHexDigit c then some (hexValue c) else none
  value?.filter (· < base)

/-- The number that digits spell to a base. -/
def naturalIn? (base : Nat) (digits : Text) : Option Nat :=
  if digits.isEmpty then none
  else digits.foldlM (fun n c => (digitIn? base c).map fun value => base * n + value) 0

/-- The letters that may stand behind a zero to name a base. -/
def baseLetters (base : Nat) : List Char :=
  if base = 2 then ['b', 'B'] else if base = 8 then ['o', 'O'] else ['x', 'X']

/-- Drop a zero and the letter of a base. -/
def withoutBaseMark (base : Nat) : Text → Text
  | '0' :: letter :: rest =>
      if (baseLetters base).contains letter then rest else '0' :: letter :: rest
  | t => t

/-- The integer that a text spells to base two, eight or sixteen. -/
def integerIn? (base : Nat) (t : Text) : Option Int :=
  let natural (digits : Text) : Option Nat := naturalIn? base (withoutBaseMark base digits)
  match Text.trim t with
  | '-' :: digits => (natural digits).map fun n => -(n : Int)
  | '+' :: digits => (natural digits).map Int.ofNat
  | digits => (natural digits).map Int.ofNat

/-- How many digits of a decimal integer are converted. -/
def digitLimit : Nat := 4300

/-- The integer that a text spells to a base, which must be one; no long one to base ten is read. -/
def integerIn (base : Nat) (t : Text) : Except Fault Int :=
  match if base = 10 then Text.integer? t else integerIn? base t with
  | some n =>
      let count := t.countP fun c => (Text.digitValue? c).isSome
      if base = 10 ∧ digitLimit < count then .error (.digits count) else .ok n
  | none => .error (.integer base t)

/-- The value of digits to base sixty. -/
def sixtieths (parts : List Int) : Int :=
  parts.foldl (fun n part => 60 * n + part) 0

/-- The integer of a text without sign and underscores. -/
def bareInteger (t : Text) : Except Fault Int :=
  match t with
  | [] => .error .emptyNumber
  | ['0'] => .ok 0
  | '0' :: 'b' :: digits => integerIn 2 digits
  | '0' :: 'x' :: digits => integerIn 16 digits
  | '0' :: _ => integerIn 8 t
  | _ =>
      if t.contains ':' then
        ((Text.splitWhere (· == ':') t).mapM (integerIn 10)).map sixtieths
      else integerIn 10 t

/-- The value of an integer scalar. -/
def integerValue (text : Text) : Except Fault Datum :=
  let t := withoutRules text
  match t with
  | '-' :: rest => (bareInteger rest).map fun n => .int (-n)
  | _ => (bareInteger (unsigned t)).map .int

/-- The floating-point number that a text spells, which must be one. -/
def floatPart (t : Text) : Except Fault Double :=
  match Double.read? t with
  | some x => .ok x
  | none => .error (.float t)

/-- The sum of numbers to base sixty, the last of which counts by itself. -/
def sixtiethSum (parts : List Double) : Double :=
  (parts.reverse.zipIdx.foldl
    (fun sum part => sum.add (part.1.mul (Double.ofInt (Nat.pow 60 part.2)))) (Double.zero false))

/-- The floating-point number of a text without sign and underscores. -/
def bareFloat (t : Text) : Except Fault Double :=
  if t == ".inf".toList then .ok (.infinite false)
  else if t == ".nan".toList then .ok .nan
  else if t.contains ':' then
    ((Text.splitWhere (· == ':') t).mapM floatPart).map sixtiethSum
  else floatPart t

/-- The value of a floating-point scalar. -/
def floatValue (text : Text) : Except Fault Datum :=
  match Text.lower (withoutRules text) with
  | [] => .error .emptyNumber
  | '-' :: rest => (bareFloat rest).map fun x => .float x.neg
  | t => (bareFloat (unsigned t)).map .float

/-- The value of a truth scalar. -/
def truthValue (text : Text) : Except Fault Datum :=
  let word := Text.lower text
  match truthWords.find? fun entry => entry.1.toList == word with
  | some entry => .ok (.bool entry.2)
  | none => .error (.truth word)

/-- The date of a stamp. -/
def stampDate (stamp : Stamp) : Except Fault Date :=
  if stamp.year = 0 then .error (.range "year 0 is out of range")
  else if stamp.month = 0 ∨ 12 < stamp.month then .error (.range "month must be in 1..12")
  else if stamp.day = 0 ∨ Date.daysInMonth stamp.year stamp.month < stamp.day then
    .error (.range "day is out of range for month")
  else .ok ⟨stamp.year, stamp.month, stamp.day⟩

/-- The offset of a written time in minutes, which must be less than a day. -/
def offsetMinutes : WrittenOffset → Except Fault (Option Int)
  | .none => .ok none
  | .universal => .ok (some 0)
  | .signed negative hours minutes =>
      let size : Int := hours * 60 + minutes
      let offset := if negative then -size else size
      if size < 1440 then .ok (some offset)
      else .error (.range ("offset must be a timedelta strictly between " ++
        "-timedelta(hours=24) and timedelta(hours=24), not " ++
        String.ofList (Value.durationLiteral offset) ++ "."))

/-- The moment of a stamp with a time. -/
def stampMoment (stamp : Stamp) (time : WrittenTime) : Except Fault Moment := do
  let offset ← offsetMinutes time.offset
  let date ← stampDate stamp
  if 23 < time.hour then .error (.range "hour must be in 0..23")
  else if 59 < time.minute then .error (.range "minute must be in 0..59")
  else if 59 < time.second then .error (.range "second must be in 0..59")
  else return ⟨date, time.hour, time.minute, time.second, time.micro, offset⟩

/-- The value of a date scalar. -/
def stampValue (text : Text) : Except Fault Datum :=
  match stamp? text with
  | none => .error .date
  | some stamp =>
      match stamp.time with
      | none => (stampDate stamp).map .date
      | some time => (stampMoment stamp time).map .moment

/-- The number that a digit to base sixty-four stands for. -/
def sextet? (c : Char) : Option Nat :=
  if 'A' ≤ c ∧ c ≤ 'Z' then some (c.toNat - 'A'.toNat)
  else if 'a' ≤ c ∧ c ≤ 'z' then some (c.toNat - 'a'.toNat + 26)
  else if '0' ≤ c ∧ c ≤ '9' then some (c.toNat - '0'.toNat + 52)
  else if c = '+' then some 62
  else if c = '/' then some 63
  else none

/--
The bytes that digits to base sixty-four spell; `pending` are the digits of a
group of four that is not complete, and `padding` is how many equals signs
followed them.  Other characters do not count, and nothing counts behind a group
that equals signs complete.
-/
def sextetBytes (pending : List Nat) (padding : Nat) : Text → Option (List UInt8)
  | [] => if pending.isEmpty then some [] else none
  | c :: rest =>
      if c = '=' then
        if 2 ≤ pending.length then
          if 4 ≤ pending.length + padding + 1 then some []
          else sextetBytes pending (padding + 1) rest
        else sextetBytes pending padding rest
      else
        match sextet? c with
        | none => sextetBytes pending padding rest
        | some digit =>
            match pending with
            | [] => sextetBytes [digit] 0 rest
            | [a] =>
                (sextetBytes [a, digit] 0 rest).map (UInt8.ofNat (a * 4 + digit / 16) :: ·)
            | [a, b] =>
                (sextetBytes [a, b, digit] 0 rest).map
                  (UInt8.ofNat (b % 16 * 16 + digit / 4) :: ·)
            | _ :: _ :: c :: _ =>
                (sextetBytes [] 0 rest).map (UInt8.ofNat (c % 4 * 64 + digit) :: ·)

/-- The value of a binary scalar. -/
def binaryValue (text : Text) : Except Fault Datum :=
  if text.all fun c => c.toNat < 0x80 then
    match sextetBytes [] 0 text with
    | some bytes => .ok (.bytes bytes)
    | none => .error .malformed
  else .error .malformed

/-- The value of a scalar of a known kind. -/
def scalarValue (kind : Kind) (text : Text) : Except Fault Datum :=
  match kind with
  | .null => .ok .null
  | .truth => truthValue text
  | .integer => integerValue text
  | .float => floatValue text
  | .binary => binaryValue text
  | .timestamp => stampValue text
  | .text => .ok (.text text)
  | _ => .error .malformed

end Splice.Yaml
