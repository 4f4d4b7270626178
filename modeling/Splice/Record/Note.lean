import Splice.Text.Basic

namespace Splice

/-!
# Notes

What the library reports about its own work.  Each note belongs to the part of
the library that makes it, and all of them are of the lowest importance.
-/

/-- The parts of the library that make notes. -/
inductive Channel where
  | compiler
  | provenance
  | debugRendering
  | command
  deriving DecidableEq

/-- The name under which a part of the library reports. -/
def Channel.name : Channel → String
  | .compiler => "codeloom.compiler"
  | .provenance => "codeloom.provenance"
  | .debugRendering => "codeloom.renderers.debug"
  | .command => "codeloom.cli"

/-- One report. -/
structure Note where
  channel : Channel
  message : String
  deriving DecidableEq

/-- Several reports of one part of the library. -/
def Channel.notes (channel : Channel) (messages : List String) : List Note :=
  messages.map fun message => ⟨channel, message⟩

end Splice
