import Splice.Settings.Fault
import Splice.Settings.Spacing
import Splice.Settings.Tracing

namespace Splice

/-!
# Unchecked settings

Settings as they were given, before they are known to make sense.  Checking
turns them into `Spacing` and `Tracing`, or says which one is wrong.
-/

/-- Unchecked spacing rules. -/
structure SpacingFields where
  cap : Datum := .int 2
  capAfterOpen : Datum := .int 1
  capBeforeClose : Datum := .int 1
  finalBreak : Datum := .bool true

namespace SpacingFields

/-- The name of the cap between two lines. -/
def capKey : String := "max_newlines"

/-- The name of the cap after an opening bracket. -/
def capAfterOpenKey : String := "max_newlines_after_open"

/-- The name of the cap before a closing bracket. -/
def capBeforeCloseKey : String := "max_newlines_before_close"

/-- The name of the switch for a final line break. -/
def finalBreakKey : String := "trailing_newline"

/-- A cap has to be a positive integer; a truth value is none. -/
def checkCap (key : String) (found : Datum) : Except SettingsFault { cap : Nat // 0 < cap } :=
  match found with
  | .int n => if positive : 0 < n.toNat then .ok ⟨n.toNat, positive⟩ else .error (.cap key found)
  | _ => .error (.cap key found)

/-- The spacing rules that the fields give. -/
def check (fields : SpacingFields) : Except SettingsFault Spacing := do
  let cap ← checkCap capKey fields.cap
  let capAfterOpen ← checkCap capAfterOpenKey fields.capAfterOpen
  let capBeforeClose ← checkCap capBeforeCloseKey fields.capBeforeClose
  return {
    cap := cap.val
    capAfterOpen := capAfterOpen.val
    capBeforeClose := capBeforeClose.val
    finalBreak := fields.finalBreak.isTruthy
    cap_pos := cap.property
    capAfterOpen_pos := capAfterOpen.property
    capBeforeClose_pos := capBeforeClose.property }

end SpacingFields

/-- Unchecked settings of debug rendering. -/
structure TracingFields where
  legendTitle : Text := Tracing.standard.legendTitle
  system : Text := Tracing.standard.system.name.toList
  definition : Text := Tracing.standard.definition

namespace TracingFields

/-- The name of the legend's title. -/
def legendTitleKey : String := "legend_title"

/-- The name of the colour system. -/
def systemKey : String := "color_system"

/-- The name of the boundary emphasis. -/
def definitionKey : String := "boundary_style"

/-- The component of a colour that spells no number, if that is what is wrong. -/
def component? : StyleFault → Option Text
  | .badBackground _ (.notInteger component) => some component
  | .badColour _ (.notInteger component) => some component
  | _ => none

/-- A definition that defines no style. -/
def boundaryFault (definition : Text) (why : StyleFault) : SettingsFault :=
  match component? why with
  | some component => .component component
  | none => .boundary definition why

/-- The settings that the fields give; the colour system is looked at first. -/
def check (fields : TracingFields) : Except SettingsFault Tracing :=
  match ColourSystem.ofName? (String.ofList fields.system) with
  | none => .error (.colourSystem fields.system)
  | some system =>
      match defined : Style.define fields.definition with
      | .error why => .error (boundaryFault fields.definition why)
      | .ok boundary => .ok {
          legendTitle := fields.legendTitle
          system := system
          definition := fields.definition
          boundary := boundary
          defined := by rw [defined]; rfl }

end TracingFields

end Splice
