import Splice.Settings.Environment
import Splice.Settings.Fields

namespace Splice

/-!
# Settings from a dictionary

A configuration is a dictionary with a section for spacing and one for debug
rendering.  Variables are replaced first, everywhere.  A section that counts as
absent gives the defaults; entries without a meaning are passed over.  A number
or switch may be written as a text, and the settings of debug rendering take the
display form of whatever stands there.
-/

/-- All settings. -/
structure Settings where
  spacing : Spacing
  tracing : Tracing

namespace Settings

/-- The settings when nothing is configured. -/
def standard : Settings :=
  ⟨Spacing.standard, Tracing.standard⟩

/-- The name of the section for spacing. -/
def spacingSection : String := "render"

/-- The name of the section for debug rendering. -/
def tracingSection : String := "debug"

/-- A number: a text whose blanks are trimmed and which then is all digits is read, anything else is kept. -/
def number (entries : Value.Entries Empty) (key : String) (standard : Datum) :
    Except SettingsFault Datum :=
  match (Value.get? key entries).getD standard with
  | .text t =>
      if Text.allDigits (Text.trim t) then
        match Text.decimal? (Text.trimNumber t) with
        | some n => .ok (.int n)
        | none => .error (.digits t)
      else .ok (.text t)
  | value => .ok value

/-- The words that a switch may be written as. -/
def switchWords : List (String × Bool) :=
  [("true", true), ("false", false), ("1", true), ("0", false)]

/-- A switch: a truth value, or a word for one in any case and with blanks around it. -/
def switch (entries : Value.Entries Empty) (key : String) (standard : Bool) :
    Except SettingsFault Bool :=
  match (Value.get? key entries).getD (.bool standard) with
  | .bool b => .ok b
  | .text t =>
      match switchWords.lookup (String.ofList (Text.lower (Text.trim t))) with
      | some b => .ok b
      | none => .error (.switch key (.text t))
  | value => .error (.switch key value)

/-- The spacing rules of a section. -/
def spacingOf (entries : Value.Entries Empty) : Except SettingsFault Spacing := do
  let cap ← number entries SpacingFields.capKey (.int 2)
  let capAfterOpen ← number entries SpacingFields.capAfterOpenKey (.int 1)
  let capBeforeClose ← number entries SpacingFields.capBeforeCloseKey (.int 1)
  let finalBreak ← switch entries SpacingFields.finalBreakKey true
  SpacingFields.check ⟨cap, capAfterOpen, capBeforeClose, .bool finalBreak⟩

/-- The display form of an entry. -/
def shown (entries : Value.Entries Empty) (key : String) (standard : Text) : Text :=
  match Value.get? key entries with
  | some value => value.display
  | none => standard

/-- The settings of debug rendering of a section. -/
def tracingOf (entries : Value.Entries Empty) : Except SettingsFault Tracing :=
  let standard : TracingFields := {}
  TracingFields.check {
    legendTitle := shown entries TracingFields.legendTitleKey standard.legendTitle
    system := shown entries TracingFields.systemKey standard.system
    definition := shown entries TracingFields.definitionKey standard.definition }

/-- The entries of a section; one that is absent or counts as absent has none. -/
def sectionEntries (entries : Value.Entries Empty) (name : String) :
    Except SettingsFault (Value.Entries Empty) :=
  match Value.get? name entries with
  | none => .ok []
  | some (.dict inner) => .ok inner
  | some value => if value.isTruthy then .error (.sectionShape name) else .ok []

/-- The settings of a dictionary in which variables are replaced already. -/
def ofEntries (entries : Value.Entries Empty) : Except SettingsFault Settings := do
  let spacing ← spacingOf (← sectionEntries entries spacingSection)
  let tracing ← tracingOf (← sectionEntries entries tracingSection)
  return ⟨spacing, tracing⟩

/-- The settings of a dictionary. -/
def load (environment : Environment) (entries : Value.Entries Empty) :
    Except SettingsFault Settings :=
  match environment.substituteEntries entries with
  | .error name => .error (.unset name)
  | .ok replaced => ofEntries replaced

end Settings

end Splice
