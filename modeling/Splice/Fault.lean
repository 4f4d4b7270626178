import Splice.Document.Reference
import Splice.Settings.Fault
import Splice.Template.Compile

namespace Splice

/-!
# Faults

Everything that the library refuses, with the families that a fault belongs to.
A caller that handles a family handles all of its faults: faults of templates,
faults of a value's kind and faults of a setting's value.
-/

/-- Something that the library refuses. -/
inductive Fault where
  /-- A fault that belongs to no family. -/
  | general (text : String)
  /-- A fault of a template. -/
  | template (text : String)
  /-- A fault of a setting. -/
  | settings (text : String)
  | compilation (fault : Template.Fault)
  | reference (fault : Malformed)

/-- Families of faults. -/
inductive Family where
  | library
  | template
  | kind
  | value
  deriving DecidableEq

namespace Family

/-- All families, the widest one first. -/
def all : List Family := [.library, .template, .kind, .value]

end Family

namespace Fault

/-- What is said about a fault. -/
def message : Fault → String
  | .general text => text
  | .template text => text
  | .settings text => text
  | .compilation fault => fault.message
  | .reference fault => fault.message

/-- Whether a fault belongs to a family. -/
def isIn (fault : Fault) : Family → Bool
  | .library => true
  | .template => match fault with
    | .template _ => true
    | .compilation (.unresolved _ _ _) => true
    | _ => false
  | .kind => match fault with
    | .compilation (.unconvertible _) => true
    | _ => false
  | .value => match fault with
    | .settings _ => true
    | _ => false

/-- The families of a fault. -/
def families (fault : Fault) : List Family :=
  Family.all.filter fault.isIn

end Fault

end Splice
