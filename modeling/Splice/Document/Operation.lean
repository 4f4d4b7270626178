import Splice.Provenance.Token

namespace Splice

/-!
# Operations of a document

A document is a sequence of operations.  A nested block owns a sequence of its
own, and a back-reference counts back to a block of the same sequence; so
sequences can be joined or moved into blocks without touching a reference.
-/

/-- One step of a document. -/
inductive Operation where
  /-- A line break. -/
  | newline
  /-- Text taken from a template. -/
  | fixed (text : Text)
  /-- Text that arose from a value. -/
  | owned (text : Text)
  /-- A document spliced in at this point. -/
  | block (operations : List Operation)
  /-- The block that lies `offset` operations back in the same sequence, once more. -/
  | back (offset : Int)
  /-- What follows comes from this place. -/
  | marker (token : Token)
  deriving Inhabited

/-- A document is a sequence of operations. -/
abbrev Document := List Operation

namespace Operation

/-- The name of an operation's kind, as error messages give it. -/
def kindName : Operation → String
  | .newline => "NewlineMarker"
  | .fixed _ => "FixedText"
  | .owned _ => "OwnedText"
  | .block _ => "NestedBlock"
  | .back _ => "BackReference"
  | .marker _ => "ProvenanceMarker"

/-- The text an operation writes by itself. -/
def text? : Operation → Option Text
  | .fixed text => some text
  | .owned text => some text
  | _ => none

end Operation

end Splice
