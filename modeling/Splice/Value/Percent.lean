import Splice.Number.Fixed
import Splice.Value.Literal

namespace Splice.Value

/-!
# Percent formatting

A message may hold conversions: a percent sign, an optional key in parentheses,
flags, a least width, a precision and a letter.  Each conversion takes the next
argument, or the entry of its key, and writes it in the manner of its letter.
-/

/-- Why a message cannot be formatted. -/
inductive PercentFault where
  | tooFewArguments
  | tooManyArguments
  | needsMapping
  | missingKey (key : Text)
  | incomplete
  | incompleteKey
  | widthNotInteger
  | widthSize
  | precisionSize
  | unsupported (c : Char) (index : Nat)
  | notReal (letter : Char) (typeName : String)
  | notInteger (letter : Char) (typeName : String)
  | notFloat (typeName : String)
  | notCharacter
  | characterRange
  | infinite
  | nan
  deriving DecidableEq

/-- What is said about a message that cannot be formatted. -/
def PercentFault.message : PercentFault → String
  | .tooFewArguments => "not enough arguments for format string"
  | .tooManyArguments => "not all arguments converted during string formatting"
  | .needsMapping => "format requires a mapping"
  | .missingKey key => String.ofList (Text.quoted key)
  | .incomplete => "incomplete format"
  | .incompleteKey => "incomplete format key"
  | .widthNotInteger => "* wants int"
  | .widthSize => "width too big"
  | .precisionSize => "precision too big"
  | .unsupported c index =>
      let shown := if 31 ≤ c.toNat && c.toNat < 126 then c else '?'
      let code := String.ofList (Nat.toDigits 16 c.toNat)
      s!"unsupported format character '{shown}' (0x{code}) at index {index}"
  | .notReal letter typeName => s!"%{letter} format: a real number is required, not {typeName}"
  | .notInteger letter typeName => s!"%{letter} format: an integer is required, not {typeName}"
  | .notFloat typeName => s!"must be real number, not {typeName}"
  | .notCharacter => "%c requires int or char"
  | .characterRange => "%c arg not in range(0x110000)"
  | .infinite => "cannot convert float infinity to integer"
  | .nan => "cannot convert float NaN to integer"

/-- The flags, width and precision of a conversion. -/
structure Conversion where
  left : Bool := false
  plus : Bool := false
  blank : Bool := false
  alternate : Bool := false
  zeroFill : Bool := false
  width : Nat := 0
  precision : Option Nat := none

/-- What a conversion takes its values from: a row of arguments, or a dictionary. -/
structure Supply where
  rest : List Datum
  entries : Option (Entries Empty)

/-- The next argument of the row. -/
def Supply.next (supply : Supply) : Except PercentFault (Datum × Supply) :=
  match supply.rest with
  | [] => .error .tooFewArguments
  | value :: rest => .ok (value, { supply with rest := rest })

/-- A literal form in ASCII. -/
def asciiLiteral (value : Datum) : Text :=
  value.literal.flatMap fun c => if c.toNat < 0x80 then [c] else Text.numericEscape c.toNat

/-- Fill a number up to its width: zeros go between the sign or base mark and the digits. -/
def Conversion.pad (conversion : Conversion) (numeric : Bool) (mark digits : Text) : Text :=
  let missing := conversion.width - (mark.length + digits.length)
  if conversion.left then mark ++ digits ++ List.replicate missing ' '
  else if numeric && conversion.zeroFill then mark ++ List.replicate missing '0' ++ digits
  else List.replicate missing ' ' ++ mark ++ digits

/-- The sign that a number is written with. -/
def Conversion.sign (conversion : Conversion) (negative : Bool) : Text :=
  if negative then ['-'] else if conversion.plus then ['+'] else if conversion.blank then [' '] else []

/-- Write an integer with `letter` as its base. -/
def Conversion.integer (conversion : Conversion) (letter : Char) (n : Int) : Text :=
  let base := if letter = 'o' then 8 else if letter = 'x' || letter = 'X' then 16 else 10
  let digits := Nat.toDigits base n.natAbs
  let digits := if letter = 'X' then digits.map Char.toUpper else digits
  let digits := List.replicate (conversion.precision.getD 0 - digits.length) '0' ++ digits
  let baseMark := if conversion.alternate && base ≠ 10 then ['0', letter] else []
  conversion.pad true (conversion.sign (n < 0) ++ baseMark) digits

/-- Write a floating-point number in the form of `letter`. -/
def Conversion.float (conversion : Conversion) (letter : Char) (x : Double) : Text :=
  let kind := letter.toLower
  let places := conversion.precision.getD 6
  let negative := match x with
    | .nan => false
    | .infinite negative => negative
    | .finite negative _ _ => negative
  let body := match x with
    | .nan => "nan".toList
    | .infinite _ => "inf".toList
    | .finite _ mantissa exponent =>
        if kind = 'f' then Double.fixedDigits conversion.alternate mantissa exponent places
        else if kind = 'e' then
          Double.scientificDigits conversion.alternate mantissa exponent places
        else Double.generalDigits conversion.alternate mantissa exponent places
  let body := if letter.isUpper then body.map Char.toUpper else body
  conversion.pad true (conversion.sign negative) body

/-- The integer that a decimal conversion writes: a floating-point number is cut towards zero. -/
def wholeNumber (letter : Char) : Datum → Except PercentFault Int
  | .int n => .ok n
  | .bool b => .ok (if b then 1 else 0)
  | .float .nan => .error .nan
  | .float (.infinite _) => .error .infinite
  | .float x => .ok (x.truncate?.getD 0)
  | value => .error (.notReal letter value.typeName)

/-- The integer that a conversion to another base writes. -/
def exactInteger (letter : Char) : Datum → Except PercentFault Int
  | .int n => .ok n
  | .bool b => .ok (if b then 1 else 0)
  | value => .error (.notInteger letter value.typeName)

/-- The floating-point number nearest to a number. -/
def nearestFloat : Datum → Except PercentFault Double
  | .int n => .ok (.ofInt n)
  | .bool b => .ok (.ofInt (if b then 1 else 0))
  | .float x => .ok x
  | value => .error (.notFloat value.typeName)

/-- A single character, given by itself or by its code point. -/
def character : Datum → Except PercentFault Text
  | .text [c] => .ok [c]
  | .bool b => .ok [Char.ofNat (if b then 1 else 0)]
  | .int n => if 0 ≤ n ∧ n < 0x110000 then .ok [Char.ofNat n.toNat] else .error .characterRange
  | _ => .error .notCharacter

/-- Write one value in the manner of a letter, which stands at `index` of the message. -/
def Conversion.apply (conversion : Conversion) (letter : Char) (index : Nat) (value : Datum) :
    Except PercentFault Text :=
  let shown (t : Text) : Text :=
    conversion.pad false [] (match conversion.precision with
      | none => t
      | some most => t.take most)
  match letter with
  | 's' => .ok (shown value.display)
  | 'r' => .ok (shown value.literal)
  | 'a' => .ok (shown (asciiLiteral value))
  | 'd' | 'i' | 'u' => (wholeNumber letter value).map (conversion.integer letter)
  | 'o' | 'x' | 'X' => (exactInteger letter value).map (conversion.integer letter)
  | 'e' | 'E' | 'f' | 'F' | 'g' | 'G' => (nearestFloat value).map (conversion.float letter)
  | 'c' => (character value).map fun t => conversion.pad false [] t
  | _ => .error (.unsupported letter index)

/-- Read the flags of a conversion. -/
def flags (conversion : Conversion) : Text → Conversion × Text
  | '-' :: rest => flags { conversion with left := true } rest
  | '+' :: rest => flags { conversion with plus := true } rest
  | ' ' :: rest => flags { conversion with blank := true } rest
  | '#' :: rest => flags { conversion with alternate := true } rest
  | '0' :: rest => flags { conversion with zeroFill := true } rest
  | rest => (conversion, rest)

/-- The number at the front of a text, and what follows it. -/
def leadingNumber (t : Text) : Nat × Text :=
  (((t.takeWhile Char.isDigit).foldl (fun n c => 10 * n + (c.toNat - '0'.toNat)) 0), t.dropWhile Char.isDigit)

/-- An argument that gives a width or a precision. -/
def Supply.number (supply : Supply) : Except PercentFault (Int × Supply) := do
  let (value, supply) ← supply.next
  match value with
  | .int n => return (n, supply)
  | .bool b => return (if b then 1 else 0, supply)
  | _ => .error .widthNotInteger

/-- The greatest width that is written in digits. -/
def greatestWidth : Nat := 9223372036854775807

/-- The greatest precision that is written in digits. -/
def greatestPrecision : Nat := 2147483647

/-- Read the width: digits, or a star that takes it from the arguments. -/
def width (conversion : Conversion) (supply : Supply) :
    Text → Except PercentFault (Conversion × Supply × Text)
  | '*' :: rest => do
      let (n, supply) ← supply.number
      return ({ conversion with width := n.natAbs, left := conversion.left || n < 0 }, supply, rest)
  | t =>
      let (n, rest) := leadingNumber t
      if greatestWidth < n then .error .widthSize
      else return ({ conversion with width := n }, supply, rest)

/-- Read the precision after its point. -/
def precision (conversion : Conversion) (supply : Supply) :
    Text → Except PercentFault (Conversion × Supply × Text)
  | '.' :: '*' :: rest => do
      let (n, supply) ← supply.number
      return ({ conversion with precision := some n.toNat }, supply, rest)
  | '.' :: rest =>
      let (n, rest) := leadingNumber rest
      if greatestPrecision < n then .error .precisionSize
      else return ({ conversion with precision := some n }, supply, rest)
  | t => return (conversion, supply, t)

/-- The key up to its closing parenthesis, inner parentheses in pairs, and what follows. -/
def key? : (depth : Nat) → Text → Option (Text × Text)
  | _, [] => none
  | 0, ')' :: rest => some ([], rest)
  | depth + 1, ')' :: rest => (key? depth rest).map fun found => (')' :: found.1, found.2)
  | depth, '(' :: rest => (key? (depth + 1) rest).map fun found => ('(' :: found.1, found.2)
  | depth, c :: rest => (key? depth rest).map fun found => (c :: found.1, found.2)

/-- Take the entry that a conversion names. -/
def chooseEntry (supply : Supply) : Text → Except PercentFault (Supply × Text)
  | '(' :: t =>
      match supply.entries with
      | none => .error .needsMapping
      | some entries =>
          match key? 0 t with
          | none => .error .incompleteKey
          | some (name, rest) =>
              match find? (.text name) entries with
              | none => .error (.missingKey name)
              | some value => .ok ({ supply with rest := [value] }, rest)
  | t => .ok (supply, t)

/-- Format what is left of a message of `total` characters; the fuel bounds the conversions left. -/
def percentFrom (total : Nat) : (fuel : Nat) → Supply → Text → Except PercentFault Text
  | 0, _, _ => .ok []
  | _ + 1, supply, [] =>
      if supply.entries.isNone && !supply.rest.isEmpty then .error .tooManyArguments else .ok []
  | fuel + 1, supply, '%' :: '%' :: rest => do
      return '%' :: (← percentFrom total fuel supply rest)
  | fuel + 1, supply, '%' :: t => do
      let (supply, t) ← chooseEntry supply t
      let (conversion, t) := flags {} t
      let (conversion, supply, t) ← width conversion supply t
      let (conversion, supply, t) ← precision conversion supply t
      let t := match t with
        | 'h' :: rest => rest
        | 'l' :: rest => rest
        | 'L' :: rest => rest
        | other => other
      match t with
      | [] => .error .incomplete
      | letter :: rest =>
          let (value, supply) ← supply.next
          let written ← conversion.apply letter (total - rest.length - 1) value
          return written ++ (← percentFrom total fuel supply rest)
  | fuel + 1, supply, c :: rest => do
      return c :: (← percentFrom total fuel supply rest)

/--
A message with its arguments put in.  Without arguments the message is left as
it is; a single dictionary that is not empty gives its entries by key.
-/
def percent (message : Text) (arguments : List Datum) : Except PercentFault Text :=
  let supply : Supply :=
    match arguments with
    | [.dict (entry :: rest)] => ⟨[.dict (entry :: rest)], some (entry :: rest)⟩
    | _ => ⟨arguments, none⟩
  if arguments.isEmpty then .ok message
  else percentFrom message.length (message.length + 1) supply message

end Splice.Value
