import Splice.Provenance.Frame
import Splice.Provenance.Token

namespace Splice

/-!
# Registries

A registry knows the token of each site that was registered with it, and it hands out
colours.  When the colour of a token is asked for and no slot holds one, a number is claimed
from the counter of the registry and committed to a slot of the token; a slot that was
committed before is left as it is, and its number is the colour.
-/

/-- A place that keeps its token: one that a caller names, or an instruction of some code. -/
inductive Site where
  | named (name : Text)
  | call (code : Code) (instruction : Int)
  deriving DecidableEq

/-- The site of a call: its instruction and the code that runs, wherever that was compiled. -/
def Frame.site (frame : Frame) : Site :=
  .call frame.running.code frame.instruction

/-- The sites and colours of one registry. -/
structure Registry where
  /-- The token of each registered site. -/
  sites : List (Site × Token) := []
  /-- The next number of the counter. -/
  nextColour : Nat := 0
  /-- The colours that were committed, by the number of the token. -/
  slots : List (Int × Nat) := []

namespace Registry

/-- The token registered for a site. -/
def site? (registry : Registry) (site : Site) : Option Token :=
  registry.sites.lookup site

/-- Keep the token of a new site. -/
def addSite (registry : Registry) (site : Site) (token : Token) : Registry :=
  { registry with sites := registry.sites ++ [(site, token)] }

/-- The colour that was committed for a token. -/
def colour? (registry : Registry) (token : Token) : Option Nat :=
  registry.slots.lookup token.id

/-- Whether a token has a colour. -/
def isColoured (registry : Registry) (token : Token) : Bool :=
  (registry.colour? token).isSome

/-- Take the next number from the counter. -/
def claim (registry : Registry) : Nat × Registry :=
  (registry.nextColour, { registry with nextColour := registry.nextColour + 1 })

/-- The colour committed for a token already, or else the one that was claimed, which is committed now. -/
def commit (registry : Registry) (token : Token) (claimed : Nat) : Nat × Registry :=
  match registry.colour? token with
  | some colour => (colour, registry)
  | none => (claimed, { registry with slots := registry.slots ++ [(token.id, claimed)] })

/-- The colour of a token, with the registry from then on and what is reported. -/
def use (registry : Registry) (token : Token) : Nat × Registry × List String :=
  match registry.colour? token with
  | some colour => (colour, registry, [])
  | none =>
      let (claimed, registry) := registry.claim
      let (colour, registry) := registry.commit token claimed
      let location := String.ofList token.location
      let note :=
        if colour = claimed then s!"Assigned colour {colour} to {location}"
        else s!"Discarded colour claim {claimed} for {location}, already committed as {colour}"
      (colour, registry, [note])

/-- Give a token a colour if it has none. -/
def colour (registry : Registry) (token : Token) : Registry :=
  (registry.use token).2.1

/-- The colour of a token once it has one. -/
def colourOf (registry : Registry) (token : Token) : Nat :=
  (registry.use token).1

/-- What is reported when a token gets its colour. -/
def notes (registry : Registry) (token : Token) : List String :=
  (registry.use token).2.2

/-- The tokens with a colour, in the order in which their slots were committed. -/
def coloured (registry : Registry) : List Int :=
  registry.slots.map Prod.fst

end Registry

end Splice
