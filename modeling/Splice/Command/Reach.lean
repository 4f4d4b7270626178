import Splice.Command.Run

namespace Splice.Command

/-!
# What a command line can reach

A command looks at few files, and its configuration mentions few variables.
Both can be listed before the command runs, so that it runs on what was found.
-/

/-- The paths that a word of a command line may hold: itself, or the value behind a switch. -/
def pathsOfWord (word : Text) : List Text :=
  let candidates := [word, word.drop 2, (word.dropWhile (· != '=')).drop 1]
  candidates ++ candidates.map fun t => (Path.ofText t).text

/-- Every path that a command line may look up from the working directory `root`. -/
def paths (root : Text) (words : List Text) : List Text :=
  let base := Path.ofText root
  Workspace.configNames.map (fun names => (base.append names).text) ++ words.flatMap pathsOfWord

/-- The variables that a file mentions, if it is a configuration. -/
def namesInFile (content : List UInt8) : List Text :=
  match Entry.text? content with
  | none => []
  | some text =>
      match Yaml.load text with
      | .ok content => content.value.mentionedNames
      | .error _ => []

/-- The variables that what was found mentions. -/
def mentionedNames (found : List (Text × Entry)) : List Text :=
  found.flatMap fun
    | (_, .file content) => namesInFile content
    | (_, .directory) => []

/-- The workspace in which a command line runs, from what was found at its paths. -/
def workspaceOf (root : Text) (found : List (Text × Entry)) : Workspace :=
  ⟨root, fun path => found.lookup path⟩

/-- The lines that say how the program is called. -/
def usageLines : List String := [
  "usage: codeloom [-c FILE] [-v] [-q] [--ci] [--version] COMMAND",
  "  render TEMPLATE [-a NAME=VALUE]... [--debug]",
  "  check TEMPLATE [-a NAME]...",
  "  palette [-n COUNT]"]

/-- What is said about a command that stops without a word of its own. -/
def Crash.message : Crash → String
  | .encoding => "the input is no text in UTF-8"
  | .source .directory => "the configuration is a directory"
  | .source .encoding => "the configuration is no text in UTF-8"
  | .source fault => fault.message

end Splice.Command
