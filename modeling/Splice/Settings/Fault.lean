import Splice.Style.Definition
import Splice.Value.Literal

namespace Splice

/-!
# What settings may get wrong

Every way in which settings are refused.  Two kinds concern a number that looks
like one and is none; all others concern a setting as a whole.

Limits that an interpreter sets are left out here and in loading: an integer is
read from a text and shown as one however many digits it has, where an interpreter
may give up beyond 4300, and values may be nested to any depth.  A text consists of
characters, so it never holds half of a surrogate pair.
-/

/-- Why settings are refused. -/
inductive SettingsFault where
  /-- A cap that is no positive integer. -/
  | cap (key : String) (found : Datum)
  /-- A switch that is neither on nor off. -/
  | switch (key : String) (found : Datum)
  | colourSystem (found : Text)
  | boundary (definition : Text) (why : StyleFault)
  /-- A run of digits that spells no number. -/
  | digits (found : Text)
  /-- A component of a colour that spells no number. -/
  | component (found : Text)
  | unset (name : Text)
  | sectionShape (name : String)
  /-- A file without a mapping. -/
  | fileShape (path : Text)

namespace SettingsFault

/-- What is said about a text that spells no number. -/
def numberMessage (found : Text) : String :=
  s!"invalid literal for int() with base 10: {String.ofList (Text.quoted found)}"

/-- What is said about a text that names no colour system, with those that exist in some order. -/
def systemMessage (found : Text) (order : List ColourSystem) : String :=
  let names := ", ".intercalate (order.map fun system => s!"'{system.name}'")
  s!"Invalid colour system: {String.ofList found}. Valid: \x7b{names}\x7d"

/-- What is said about refused settings; where the order is free, in one of the orders. -/
def message : SettingsFault → String
  | .cap key found => s!"render.{key} must be a positive integer (got {found.literalString})"
  | .switch key found => s!"render.{key} must be true or false (got {found.literalString})"
  | .colourSystem found => systemMessage found ColourSystem.all
  | .boundary definition why =>
      s!"Invalid boundary style {String.ofList (Text.quoted definition)}: {why.message}"
  | .digits found => numberMessage found
  | .component found => numberMessage found
  | .unset name => s!"Environment variable not set: {String.ofList name}"
  | .sectionShape name => s!"{name} section must be a mapping"
  | .fileShape path => s!"Config file must contain a mapping: {String.ofList path}"

/-- What may be said about refused settings: the colour systems are a set and come in any order. -/
inductive Says : SettingsFault → String → Prop where
  | systems {found : Text} {order : List ColourSystem} (all : order.Perm ColourSystem.all) :
      Says (.colourSystem found) (systemMessage found order)
  | other {fault : SettingsFault} (ordered : ∀ found, fault ≠ .colourSystem found) :
      Says fault fault.message

theorem says_message (fault : SettingsFault) : fault.Says fault.message := by
  cases fault with
  | colourSystem found => exact .systems (List.Perm.refl _)
  | _ => exact .other fun _ same => by cases same

/-- Whether the fault concerns a number rather than a setting. -/
def isNumeric : SettingsFault → Bool
  | .digits _ => true
  | .component _ => true
  | _ => false

end SettingsFault

end Splice
