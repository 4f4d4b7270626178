import Splice.Text.Quoted
import Splice.Number.Notation

namespace Splice.Yaml

/-!
# Faults of a configuration text

Most faults mean that the text breaks a rule of the format, and nothing more is
said about those.  The others concern single scalars whose kind is known and
whose text does not fit it.
-/

/-- Why a text gives no value. -/
inductive Fault where
  /-- The text breaks a rule of the format. -/
  | malformed
  /-- A run of digits that spells no integer. -/
  | integer (base : Nat) (word : Text)
  /-- A text that spells no floating-point number. -/
  | float (word : Text)
  /-- A number without any character. -/
  | emptyNumber
  /-- A word that is no truth value. -/
  | truth (word : Text)
  /-- A text that spells no date. -/
  | date
  /-- A part of a date or time that lies outside its range. -/
  | range (message : String)
  /-- An escape of a number beyond the last character. -/
  | character
  /-- An escape of a number that is too long. -/
  | characterSize
  /-- An escape of half a surrogate pair, which is no character. -/
  | surrogate
  /-- A decimal integer of more digits than are converted. -/
  | digits (count : Nat)
  /-- A mapping in the place of a date. -/
  | mappingDate
  /-- A value that holds itself. -/
  | endless
  deriving DecidableEq

/-- What is said about a fault. -/
def Fault.message : Fault → String
  | .malformed => ""
  | .integer base word =>
      s!"invalid literal for int() with base {base}: {String.ofList (Text.quoted word)}"
  | .float word => s!"could not convert string to float: {String.ofList (Text.quoted word)}"
  | .emptyNumber => "string index out of range"
  | .truth word => String.ofList (Text.quoted word)
  | .date => "'NoneType' object has no attribute 'groupdict'"
  | .range message => message
  | .character => "chr() arg not in range(0x110000)"
  | .characterSize => "Python int too large to convert to C int"
  | .surrogate => ""
  | .digits count =>
      s!"Exceeds the limit (4300 digits) for integer string conversion: value has {count} digits; " ++
        "use sys.set_int_max_str_digits() to increase the limit"
  | .mappingDate => "expected string or bytes-like object, got 'list'"
  | .endless => "maximum recursion depth exceeded"

end Splice.Yaml
