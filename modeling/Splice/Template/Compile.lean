import Splice.Document.Conversion
import Splice.Text.Quoted

namespace Splice.Template

/-!
# Compilation

A template is compiled with named arguments.  Every argument is converted before
the template is looked at, and when a name is given twice the first value counts.
A placeholder whose name was not given refuses the template; an argument that is
never used does not.
-/

/-- Why a template does not compile, or a value is no document. -/
inductive Fault where
  | unresolved (name : Text) (template : Option Text) (site : Option Token)
  | unconvertible (typeName : String)
  deriving DecidableEq

/-- What is said about a template that does not compile. -/
def Fault.message : Fault → String
  | .unresolved name _ site =>
      let start := s!"No argument provided for substitution ${String.ofList name}"
      match site with
      | none => start
      | some token => start ++ s!" (template at {String.ofList token.location})"
  | .unconvertible typeName =>
      s!"Cannot convert {typeName} to a Document; " ++
        "implement to_document() to make it usable as an argument"

/-- A compiled template with what can be said about its arguments. -/
structure Compilation where
  document : Document
  unused : List Text
  argumentCount : Nat

/-- What a compilation reports: the arguments without use, then the size of the result. -/
def Compilation.notes (compilation : Compilation) (site : Option Token) : List String :=
  let place := match site with
    | none => ""
    | some token => s!" at {String.ofList token.location}"
  let unusedNote (name : Text) : String :=
    s!"Argument {String.ofList (Text.quoted name)} supplied but never referenced"
  compilation.unused.map unusedNote ++
    [s!"Compiled template{place}: {compilation.document.length} operations, " ++
      s!"{compilation.argumentCount} arguments"]

/-- Give a name its value: a known name keeps its place. -/
def setName {α : Type} (name : Text) (value : α) : List (Text × α) → List (Text × α)
  | [] => [(name, value)]
  | entry :: rest =>
      if entry.1 = name then (name, value) :: rest else entry :: setName name value rest

/-- Arguments given as a mapping: of a repeated name the last value counts. -/
def byName {α : Type} (pairs : List (Text × α)) : List (Text × α) :=
  pairs.foldl (fun entries pair => setName pair.1 pair.2 entries) []

/-- Bind each name to the document of its first value; `known` names are bound already. -/
def bindAfter (known : List Text) :
    List (Text × Value Document) → Except Fault Binding
  | [] => .ok []
  | (name, value) :: rest =>
      if known.contains name then bindAfter known rest
      else
        match value.toDocument with
        | .error typeName => .error (.unconvertible typeName)
        | .ok document => do
            let others ← bindAfter (name :: known) rest
            return (name, document) :: others

/-- The operation that marks where a document comes from. -/
def markers (site : Option Token) : Document :=
  match site with
  | none => []
  | some token => [.marker token]

/--
Compile a template.  Without arguments a dollar sign means nothing and nothing
can go wrong.
-/
def compile
    (template : Text)
    (site : Option Token)
    (arguments : Option (List (Text × Value Document))) :
    Except Fault Compilation :=
  match arguments with
  | none => .ok ⟨markers site ++ assembleLiterals .fixed template, [], 0⟩
  | some pairs => do
      let binding ← bindAfter [] pairs
      let cut := pieces true template
      match assemble .fixed binding (markers site).length [] cut with
      | .error name => .error (.unresolved name (some template) site)
      | .ok operations =>
          let used := cut.filterMap Piece.name?
          let unused := (binding.map Prod.fst).filter fun name => !used.contains name
          return ⟨markers site ++ operations, unused, binding.length⟩

end Splice.Template
