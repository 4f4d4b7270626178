import Splice.Style.Definition

namespace Splice

/-!
# Tracing settings

How a document is shown with its provenance: the title of the legend, the colours
that the terminal knows, and the emphasis of whatever is spliced into something
else.  The emphasis is given by a definition that is known to define a style.
-/

/-- The settings of debug rendering. -/
structure Tracing where
  legendTitle : Text
  system : ColourSystem
  /-- The definition of the emphasis. -/
  definition : Text
  /-- The emphasis. -/
  boundary : Style
  defined : (Style.define definition).toOption = some boundary

namespace Tracing

/-- The settings when nothing is configured. -/
def standard : Tracing where
  legendTitle := "Provenance".toList
  system := .eightBit
  definition := "underline".toList
  boundary := Style.null.set .underline true
  defined := by decide +kernel

end Tracing

end Splice
