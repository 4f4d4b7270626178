import Splice.File.Path
import Splice.Text.Blank

namespace Splice

/-!
# Workspaces

A workspace is a working directory: its own path, and what lies at each path
that is looked up from it.  A tree of files gives such a workspace: looking a
path up means to walk from directory to directory, and every name but the last
has to be a directory.
-/

/-- What lies at a path. -/
inductive Entry where
  | file (content : List UInt8)
  | directory
  deriving DecidableEq

/-- A working directory. -/
structure Workspace where
  /-- The path of the directory itself. -/
  root : Text
  /-- What lies at a path, which is written as the caller has it. -/
  entry? : Text → Option Entry

namespace Entry

/-- The text of a file, with line ends unified; nothing if it is no text. -/
def text? (content : List UInt8) : Option Text :=
  (String.fromUTF8? ⟨content.toArray⟩).map fun s => Text.unifyLineEnds s.toList

end Entry

/-- Files and directories by the names that lead to them. -/
abbrev Tree := List (List Text × Entry)

namespace Tree

/-- Where a walk has got to. -/
inductive Place where
  /-- These names lead to the place from the working directory. -/
  | inside (names : List Text)
  /-- A directory around the working directory. -/
  | around
  | nowhere
  deriving DecidableEq

/-- What lies behind some names. -/
def entryAt? (tree : Tree) (names : List Text) : Option Entry :=
  match tree.lookup names with
  | some entry => some entry
  | none =>
      if names.isEmpty || tree.any fun entry => names.isPrefixOf entry.1 then some .directory
      else none

/-- What lies at a place. -/
def status? (tree : Tree) : Place → Option Entry
  | .inside names => tree.entryAt? names
  | .around => some .directory
  | .nowhere => none

/-- Go on by one name from a directory. -/
def Place.step (name : Text) : Place → Place
  | .inside names =>
      if name.isEmpty || name = Path.self then .inside names
      else if name = Path.parent then
        if names.isEmpty then .around else .inside names.dropLast
      else .inside (names ++ [name])
  | .around =>
      if name.isEmpty || name = Path.self || name = Path.parent then .around else .nowhere
  | .nowhere => .nowhere

/-- What lies behind some names that are walked one by one. -/
def walk? (tree : Tree) (place : Place) : List Text → Option Entry
  | [] => tree.status? place
  | name :: rest =>
      if tree.status? place = some .directory then tree.walk? (place.step name) rest else none

/-- What lies at a path of the working directory `root`. -/
def find? (tree : Tree) (root path : Text) : Option Entry :=
  if path.isEmpty then none
  else
    let names := Text.splitWhere (· == '/')
    if Text.startsWith (root ++ ['/']) path then
      tree.walk? (.inside []) (names (path.drop (root.length + 1)))
    else if path.head? == some '/' then tree.walk? .around (names path)
    else tree.walk? (.inside []) (names path)

/-- The workspace whose files are those of a tree. -/
def workspace (root : Text) (tree : Tree) : Workspace :=
  ⟨root, tree.find? root⟩

end Tree

namespace Workspace

/-- What lies at a path. -/
def at? (workspace : Workspace) (path : Path) : Option Entry :=
  workspace.entry? path.text

/-- The directory that a path leads to, as a path from the root of all; nothing if it leaves the working directory. -/
def resolve? (workspace : Workspace) (path : Path) : Option Path :=
  (Path.climb? [] path.names).map fun names =>
    if path.root.isEmpty then
      let base := Path.ofText workspace.root
      { base with names := base.names ++ names }
    else { path with names := names }

end Workspace

end Splice
