import Splice.Value.Literal

namespace Splice.Value

/-!
# One-line object notation

Values written on one line with a blank after every comma and colon.  Output is
ASCII: any other character is escaped by its UTF-16 units.  Keys that are
numbers, truth values or null are written as the text of that value.  Values
without a notation are refused with the name of their kind.
-/

/-- Why a value has no object notation. -/
inductive JsonFault where
  | value (typeName : String)
  | key (typeName : String)
  deriving DecidableEq

/-- What is said about a value without notation. -/
def JsonFault.message : JsonFault → String
  | .value typeName => s!"Object of type {typeName} is not JSON serializable"
  | .key typeName => s!"keys must be str, int, float, bool or None, not {typeName}"

/-- One character of a quoted text: its UTF-16 units in hexadecimal unless it is visible ASCII. -/
def jsonChar (c : Char) : Text :=
  let unit (n : Nat) : Text := '\\' :: 'u' :: Text.hexPadded 4 n
  if c = '"' || c = '\\' then ['\\', c]
  else if c = '\n' then ['\\', 'n']
  else if c = '\r' then ['\\', 'r']
  else if c = '\t' then ['\\', 't']
  else if c.toNat = 0x0C then ['\\', 'f']
  else if c.toNat = 0x08 then ['\\', 'b']
  else if 0x20 ≤ c.toNat && c.toNat < 0x7F then [c]
  else if c.toNat < 0x10000 then unit c.toNat
  else
    let high := (c.toNat - 0x10000) / 0x400
    let low := (c.toNat - 0x10000) % 0x400
    unit (0xD800 + high) ++ unit (0xDC00 + low)

/-- A text between double quotes. -/
def jsonText (t : Text) : Text :=
  '"' :: t.flatMap jsonChar ++ ['"']

/-- A floating-point number; the values that are no numbers have words of their own. -/
def jsonFloat : Double → Text
  | .nan => "NaN".toList
  | .infinite negative => (if negative then "-Infinity" else "Infinity").toList
  | x => x.text

/-- The text of a key. -/
def jsonKey : Datum → Except JsonFault Text
  | .text t => .ok t
  | .int n => .ok (intText n)
  | .float x => .ok (jsonFloat x)
  | .bool b => .ok (if b then "true" else "false").toList
  | .null => .ok "null".toList
  | value => .error (.key value.typeName)

mutual

/-- The notation of a value. -/
def json : Datum → Except JsonFault Text
  | .null => .ok "null".toList
  | .bool b => .ok (if b then "true" else "false").toList
  | .int n => .ok (intText n)
  | .float x => .ok (jsonFloat x)
  | .text t => .ok (jsonText t)
  | .list items => do
      let parts ← jsonItems items
      return '[' :: commaSeparated parts ++ [']']
  | .tuple items => do
      let parts ← jsonItems items
      return '[' :: commaSeparated parts ++ [']']
  | .dict entries => do
      let parts ← jsonEntries entries
      return '{' :: commaSeparated parts ++ ['}']
  | value => .error (.value value.typeName)

/-- The notations of several values. -/
def jsonItems : List Datum → Except JsonFault (List Text)
  | [] => .ok []
  | item :: rest => do
      let first ← item.json
      let others ← jsonItems rest
      return first :: others

/-- The notations of some entries. -/
def jsonEntries : Entries Empty → Except JsonFault (List Text)
  | [] => .ok []
  | (key, value) :: rest => do
      let name ← jsonKey key
      let first ← value.json
      let others ← jsonEntries rest
      return (jsonText name ++ ':' :: ' ' :: first) :: others

end

end Splice.Value
