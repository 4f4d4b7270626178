import Splice.Number.Calendar

namespace Splice

/-!
# Values

The values that configuration files, template arguments and log records hold.
A dictionary keeps its entries in the order in which its keys came first, and
giving a key again replaces its value in place.  Two keys are the same key when
they are equal as numbers, texts, bytes, dates or tuples; so `1`, `1.0` and
`true` are one key.

The parameter is the type of documents: a script names documents by variable,
a compilation holds the documents themselves, and plain data has none.
-/

/-- A value with documents of type `δ`. -/
inductive Value (δ : Type) where
  | null
  | bool (b : Bool)
  | int (n : Int)
  | float (x : Double)
  | text (t : Text)
  | bytes (b : List UInt8)
  | date (d : Date)
  | moment (m : Moment)
  | list (items : List (Value δ))
  | tuple (items : List (Value δ))
  | set (items : List (Value δ))
  | dict (entries : List (Value δ × Value δ))
  | convertible (result : Value δ)
  | document (d : δ)
  deriving Inhabited

/-- A value that holds no document. -/
abbrev Datum := Value Empty

namespace Value

variable {δ ε : Type}

/-- The name of a value's kind, as error messages give it. -/
def typeName : Value δ → String
  | .null => "NoneType"
  | .bool _ => "bool"
  | .int _ => "int"
  | .float _ => "float"
  | .text _ => "str"
  | .bytes _ => "bytes"
  | .date _ => "date"
  | .moment _ => "datetime"
  | .list _ => "list"
  | .tuple _ => "tuple"
  | .set _ => "set"
  | .dict _ => "dict"
  | .convertible _ => "Convertible"
  | .document _ => "Document"

/-- Whether a value counts as present: null, false, zero and everything empty do not. -/
def isTruthy : Value δ → Bool
  | .null => false
  | .bool b => b
  | .int n => n != 0
  | .float x => !x.isZero
  | .text t => !t.isEmpty
  | .bytes b => !b.isEmpty
  | .list items => !items.isEmpty
  | .tuple items => !items.isEmpty
  | .set items => !items.isEmpty
  | .dict entries => !entries.isEmpty
  | _ => true

/-- The number a value is equal to, exactly, when it has one. -/
def integral? : Value δ → Option Int
  | .bool b => some (if b then 1 else 0)
  | .int n => some n
  | .float x => x.toInt?
  | _ => none

mutual

/-- Whether two values are the same dictionary key. -/
def sameKey : Value δ → Value δ → Bool
  | .null, .null => true
  | .text left, .text right => left == right
  | .bytes left, .bytes right => left == right
  | .date left, .date right => left == right
  | .moment left, .moment right => left == right
  | .tuple left, .tuple right => sameKeys left right
  | .float left, .float right => left.sameValue right
  | left, right =>
      match left.integral?, right.integral? with
      | some leftNumber, some rightNumber => leftNumber == rightNumber
      | _, _ => false

/-- Whether two tuples are the same dictionary key. -/
def sameKeys : List (Value δ) → List (Value δ) → Bool
  | [], [] => true
  | left :: leftRest, right :: rightRest => left.sameKey right && sameKeys leftRest rightRest
  | _, _ => false

end

mutual

/-- Whether a value may be a dictionary key: lists, sets and dictionaries may not. -/
def isKey : Value δ → Bool
  | .list _ => false
  | .set _ => false
  | .dict _ => false
  | .tuple items => areKeys items
  | _ => true

/-- Whether every item of a tuple may be a dictionary key. -/
def areKeys : List (Value δ) → Bool
  | [] => true
  | item :: rest => item.isKey && areKeys rest

end

/-- Entries of a dictionary. -/
abbrev Entries (δ : Type) := List (Value δ × Value δ)

/-- Give a key its value: a known key keeps its place, a new one goes to the end. -/
def insert {β : Type} (key : Value δ) (value : β) : List (Value δ × β) → List (Value δ × β)
  | [] => [(key, value)]
  | (known, old) :: rest =>
      if known.sameKey key then (known, value) :: rest
      else (known, old) :: insert key value rest

/-- The dictionary that results from giving keys their values in order. -/
def ofPairs {β : Type} (pairs : List (Value δ × β)) : List (Value δ × β) :=
  pairs.foldl (fun entries pair => insert pair.1 pair.2 entries) []

/-- The value of a key. -/
def find? (key : Value δ) (entries : Entries δ) : Option (Value δ) :=
  (entries.find? fun entry => entry.1.sameKey key).map Prod.snd

/-- The value of a key that is a text. -/
def get? (key : String) (entries : Entries δ) : Option (Value δ) :=
  find? (.text key.toList) entries

mutual

/-- Replace every document of a value. -/
def map (f : δ → ε) : Value δ → Value ε
  | .null => .null
  | .bool b => .bool b
  | .int n => .int n
  | .float x => .float x
  | .text t => .text t
  | .bytes b => .bytes b
  | .date d => .date d
  | .moment m => .moment m
  | .list items => .list (mapAll f items)
  | .tuple items => .tuple (mapAll f items)
  | .set items => .set (mapAll f items)
  | .dict entries => .dict (mapEntries f entries)
  | .convertible result => .convertible (result.map f)
  | .document d => .document (f d)

/-- Replace every document of several values. -/
def mapAll (f : δ → ε) : List (Value δ) → List (Value ε)
  | [] => []
  | item :: rest => item.map f :: mapAll f rest

/-- Replace every document of some entries. -/
def mapEntries (f : δ → ε) : Entries δ → Entries ε
  | [] => []
  | (key, value) :: rest => (key.map f, value.map f) :: mapEntries f rest

end

end Value

end Splice
