import Splice.Text.Basic

namespace Splice

/-!
# Paths

A path is a root, which may be empty, and names.  Empty names and single dots do
not count, so that `./a//b/` is the same path as `a/b`; two dots stay, because
what they lead to depends on the files.
-/

/-- A path without the names that do not count. -/
structure Path where
  /-- The slashes in front: none, one, or exactly two. -/
  root : Text
  names : List Text
  deriving DecidableEq

namespace Path

/-- The name of a directory in itself. -/
def self : Text := ['.']

/-- The name of the directory around a directory. -/
def parent : Text := ['.', '.']

/-- Put a slash between consecutive names. -/
def joinNames : List Text → Text
  | [] => []
  | [name] => name
  | name :: next :: rest => name ++ '/' :: joinNames (next :: rest)

/-- The root of a path: exactly two slashes are a root of their own. -/
def rootOf (t : Text) : Text :=
  let slashes := t.takeWhile (· == '/')
  if slashes.length = 2 then slashes else slashes.take 1

/-- Read a path. -/
def ofText (t : Text) : Path where
  root := rootOf t
  names := (Text.splitWhere (· == '/') t).filter fun name => !name.isEmpty && name != self

/-- Write a path; the empty path is the directory itself. -/
def text (path : Path) : Text :=
  match path.root, path.names with
  | [], [] => self
  | root, names => root ++ joinNames names

/-- A path with names added at its end. -/
def append (path : Path) (names : List Text) : Path :=
  { path with names := path.names ++ names }

/-- The names that remain when each name of a parent takes the name before it; nothing if none is left to take. -/
def climb? (done : List Text) : List Text → Option (List Text)
  | [] => some done
  | name :: rest =>
      if name = parent then
        if done.isEmpty then none else climb? done.dropLast rest
      else climb? (done ++ [name]) rest

end Path

end Splice
