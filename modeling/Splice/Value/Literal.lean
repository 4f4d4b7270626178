import Splice.Value.Basic
import Splice.Text.Quoted

namespace Splice.Value

/-!
# Literal and display forms

A value has a literal form, in which texts are quoted, and a display form, in
which a text or a date is shown bare at the outermost level.  Messages quote the
values they complain about literally; settings that want a text take the display
form of whatever they are given.
-/

/-- Join the parts of a collection with a comma and a blank. -/
def commaSeparated : List Text → Text
  | [] => []
  | [part] => part
  | part :: next :: rest => part ++ ',' :: ' ' :: commaSeparated (next :: rest)

/-- The literal form of a date. -/
def dateLiteral (date : Date) : Text :=
  "datetime.date(".toList ++ commaSeparated [intText date.year, natText date.month, natText date.day] ++ [')']

/-- The literal form of a length of time. -/
def durationLiteral (minutes : Int) : Text :=
  let seconds := minutes * 60
  let days := seconds.fdiv 86400
  let rest := seconds - days * 86400
  let parts :=
    (if days = 0 then [] else ["days=".toList ++ intText days]) ++
    (if rest = 0 then [] else ["seconds=".toList ++ intText rest])
  "datetime.timedelta(".toList ++ commaSeparated parts ++ [')']

/-- The literal form of an offset from universal time. -/
def offsetLiteral (minutes : Int) : Text :=
  if minutes = 0 then "datetime.timezone.utc".toList
  else "datetime.timezone(".toList ++ durationLiteral minutes ++ [')']

/-- The literal form of a moment: seconds and microseconds are left out when nothing after them is set. -/
def momentLiteral (moment : Moment) : Text :=
  let always := [intText moment.date.year, natText moment.date.month, natText moment.date.day,
    natText moment.hour, natText moment.minute]
  let seconds :=
    if moment.micro ≠ 0 then [natText moment.second, natText moment.micro]
    else if moment.second ≠ 0 then [natText moment.second]
    else []
  let offset := match moment.offset with
    | none => []
    | some minutes => ["tzinfo=".toList ++ offsetLiteral minutes]
  "datetime.datetime(".toList ++ commaSeparated (always ++ seconds ++ offset) ++ [')']

mutual

/-- The literal form of a value. -/
def literal : Datum → Text
  | .null => "None".toList
  | .bool b => (if b then "True" else "False").toList
  | .int n => intText n
  | .float x => x.text
  | .text t => Text.quoted t
  | .bytes b => Text.quotedBytes b
  | .date d => dateLiteral d
  | .moment m => momentLiteral m
  | .list items => '[' :: commaSeparated (literals items) ++ [']']
  | .tuple [only] => '(' :: only.literal ++ [',', ')']
  | .tuple items => '(' :: commaSeparated (literals items) ++ [')']
  | .set [] => "set()".toList
  | .set items => '{' :: commaSeparated (literals items) ++ ['}']
  | .dict entries => '{' :: commaSeparated (entryLiterals entries) ++ ['}']
  | .convertible _ => "<Convertible>".toList

/-- The literal forms of several values. -/
def literals : List Datum → List Text
  | [] => []
  | item :: rest => item.literal :: literals rest

/-- The literal forms of some entries. -/
def entryLiterals : Entries Empty → List Text
  | [] => []
  | (key, value) :: rest => (key.literal ++ ':' :: ' ' :: value.literal) :: entryLiterals rest

end

/-- The display form of a value. -/
def display : Datum → Text
  | .text t => t
  | .date d => d.text
  | .moment m => m.text ' '
  | value => value.literal

/-- The literal form as a string. -/
def literalString (value : Datum) : String :=
  String.ofList value.literal

end Splice.Value
