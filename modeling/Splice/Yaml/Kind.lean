import Splice.Text.Blank
import Splice.Yaml.Cursor

namespace Splice.Yaml

/-!
# Kinds of nodes

Every node has a kind: the one that its tag names, or for a plain scalar without
a tag the one that its text looks like.  A plain scalar that looks like nothing
special is a text.
-/

/-- What a node stands for. -/
inductive Kind where
  | null
  | truth
  | integer
  | float
  | binary
  | timestamp
  | orderedMap
  | pairs
  | set
  | text
  | sequence
  | mapping
  /-- The key whose value is merged into the mapping around it. -/
  | merge
  /-- The key whose value stands for the mapping around it. -/
  | value
  | unknown
  deriving DecidableEq

namespace Kind

/-- What the names of all known kinds begin with. -/
def space : String := "tag:yaml.org,2002:"

/-- The known kinds by name. -/
def names : List (String × Kind) := [
  ("null", .null), ("bool", .truth), ("int", .integer), ("float", .float),
  ("binary", .binary), ("timestamp", .timestamp), ("omap", .orderedMap),
  ("pairs", .pairs), ("set", .set), ("str", .text), ("seq", .sequence),
  ("map", .mapping), ("merge", .merge), ("value", .value)]

/-- The kind that a full tag names. -/
def ofTag (tag : Text) : Kind :=
  match names.find? fun entry => (space ++ entry.1).toList == tag with
  | some entry => entry.2
  | none => .unknown

end Kind

/-- Drop a sign in front. -/
def unsigned : Text → Text
  | '+' :: rest => rest
  | '-' :: rest => rest
  | t => t

/-- Drop one line feed at the end. -/
def withoutFinalFeed (t : Text) : Text :=
  if t.getLast? == some '\n' then t.dropLast else t

/-- Whether a character is a digit or an underscore. -/
def isDigitOrRule (c : Char) : Bool :=
  c.isDigit || c == '_'

/-- Whether a text is not empty and all of its characters are in a class. -/
def allIn (member : Char → Bool) (t : Text) : Bool :=
  !t.isEmpty && t.all member

/-- Whether a text is a part of a number to base sixty: one or two digits below sixty. -/
def isSixtieth : Text → Bool
  | [c] => c.isDigit
  | [c, d] => '0' ≤ c && c ≤ '5' && d.isDigit
  | _ => false

/-- Whether a text begins with a digit and goes on with digits and underscores. -/
def isDigits : Text → Bool
  | [] => false
  | c :: rest => c.isDigit && rest.all isDigitOrRule

/-- Whether a text is an exponent: a letter, a sign and digits. -/
def isExponent : Text → Bool
  | letter :: sign :: digits =>
      (letter == 'e' || letter == 'E') && (sign == '-' || sign == '+') && allIn Char.isDigit digits
  | _ => false

/-- Whether digits and underscores follow, and possibly an exponent. -/
def isFraction (t : Text) : Bool :=
  let rest := t.dropWhile isDigitOrRule
  rest.isEmpty || isExponent rest

/-- Whether a text without a sign looks like an integer. -/
def looksWhole (t : Text) : Bool :=
  match t with
  | '0' :: 'b' :: digits => allIn (fun c => c == '0' || c == '1' || c == '_') digits
  | '0' :: 'x' :: digits => allIn (fun c => isHexDigit c || c == '_') digits
  | '0' :: rest => rest.all fun c => ('0' ≤ c && c ≤ '7') || c == '_'
  | _ =>
      match Text.splitWhere (· == ':') t with
      | first :: parts => isDigits first && parts.all isSixtieth
      | [] => false

/-- Whether a text looks like an integer. -/
def looksInteger (t : Text) : Bool :=
  looksWhole (unsigned t)

/-- Whether a text without a sign looks like a number to base sixty with a point. -/
def looksSixtieth (t : Text) : Bool :=
  let whole := t.takeWhile (· != '.')
  match Text.splitWhere (· == ':') whole, t.dropWhile (· != '.') with
  | first :: part :: parts, _ :: fraction =>
      isDigits first && (part :: parts).all isSixtieth && fraction.all isDigitOrRule
  | _, _ => false

/-- Whether a text looks like a floating-point number. -/
def looksFloat (t : Text) : Bool :=
  let bare := unsigned t
  let whole := bare.takeWhile (· != '.')
  let positional := match bare.dropWhile (· != '.') with
    | _ :: fraction => isDigits whole && isFraction fraction
    | [] => false
  let short := match t with
    | '.' :: c :: rest => c.isDigit && isFraction rest
    | _ => false
  let infinite := [".inf", ".Inf", ".INF"].any fun word => word.toList == bare
  let notNumber := [".nan", ".NaN", ".NAN"].any fun word => word.toList == t
  positional || short || looksSixtieth bare || infinite || notNumber

/-- The words for truth values. -/
def truthWords : List (String × Bool) := [
  ("yes", true), ("no", false), ("true", true), ("false", false), ("on", true), ("off", false)]

/-- The forms in which a word may be written: small, with a capital, and in capitals. -/
def caseForms (word : String) : List Text :=
  let small := word.toList
  let capitals := small.map Char.toUpper
  [small, capitals.take 1 ++ small.drop 1, capitals]

/-- Whether a text looks like a truth value. -/
def looksTruth (t : Text) : Bool :=
  truthWords.any fun entry => (caseForms entry.1).contains t

/-- Whether a text looks like nothing. -/
def looksNull (t : Text) : Bool :=
  t.isEmpty || t == ['~'] || (caseForms "null").contains t

end Splice.Yaml
