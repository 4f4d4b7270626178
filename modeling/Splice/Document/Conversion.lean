import Splice.Template.Assemble
import Splice.Value.Basic

namespace Splice

/-!
# Documents made of values

A document stands for itself, and so does a value that converts to a document.
Truth values become fixed text, numbers and texts become owned text, and a text
of several lines is dedented like a template, though a dollar sign means nothing
in it.  No other value has a document form.
-/

/-- A document of a text that arose at run time. -/
def Document.ofText (text : Text) : Document :=
  Template.assembleLiterals .owned text

namespace Value

variable {δ : Type}

/-- What a value is as a document: one that exists already, or a new one; otherwise the name of its kind. -/
def convert : Value δ → Except String (δ ⊕ Document)
  | .document d => .ok (.inl d)
  | .bool b => .ok (.inr [.fixed (if b then "true" else "false").toList])
  | .int n => .ok (.inr [.owned (intText n)])
  | .float x => .ok (.inr [.owned x.text])
  | .text t => .ok (.inr (Document.ofText t))
  | .convertible (.document d) => .ok (.inl d)
  | value => .error value.typeName

/-- The document form of a value. -/
def toDocument (value : Value Document) : Except String Document :=
  value.convert.map (Sum.elim id id)

end Value

/-- The documents of several values one behind the other; the first value without one counts as the reason. -/
def Document.ofValues : List (Value Document) → Except String Document
  | [] => .ok []
  | value :: rest => do
      let first ← value.toDocument
      let others ← Document.ofValues rest
      return first ++ others

end Splice
