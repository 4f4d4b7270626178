import Splice.Command.Reach
import Std.Time.DateTime.Timestamp

/-!
# The program

Finds what the command line can reach, runs the command on it, and writes what
the command has written.
-/

namespace Splice.Program

open Command

/-- What lies at a path, if it can be read. -/
def find (path : Text) : IO (Option (Text × Entry)) := do
  try
    let place ← IO.FS.realPath (String.ofList path)
    if ← place.isDir then return some (path, .directory)
    return some (path, .file (← IO.FS.readBinFile place).toList)
  catch _ => return none

/-- Everything that a standard input holds. -/
def readInput (words : List Text) : IO (List UInt8) := do
  if words.contains inputMark then
    return (← (← IO.getStdin).readBinToEnd).toList
  return []

/-- The values of the variables that are set. -/
def readVariables (names : List Text) : IO Environment :=
  names.filterMapM fun name => do
    let value ← IO.getEnv (String.ofList name)
    return value.map fun value => (name, value.toList)

/-- The seconds since the start of 1970. -/
def now : IO Double := do
  let moment := (← Std.Time.Timestamp.now).val
  return Double.roundSigned (moment.second.val * 1000000000 + moment.nano.val) 1000000000

/-- The world around a command line. -/
def surroundings (words : List Text) : IO Surroundings := do
  let root := (← IO.currentDir).toString.toList
  let found ← (paths root words).filterMapM fun path =>
    if path.isEmpty then return none else find path
  return {
    workspace := workspaceOf root found
    environment := ← readVariables (mentionedNames found)
    input := ← readInput words
    now := ← now }

/-- Write what a command has written, and give its exit code. -/
def finish : Outcome → IO UInt32
  | .usage => do
      for line in usageLines do IO.eprintln line
      return 2
  | .help => do
      for line in usageLines do IO.println line
      return 0
  | .ended exit output errors => do
      IO.print (String.ofList output)
      IO.eprint (String.ofList errors)
      return UInt32.ofNat exit
  | .crashed crash output errors => do
      IO.print (String.ofList output)
      IO.eprint (String.ofList errors)
      IO.eprintln crash.message
      return 1

end Splice.Program

/-- Run the words of a command line. -/
def main (arguments : List String) : IO UInt32 := do
  let words := arguments.map String.toList
  Splice.Program.finish (Splice.Command.run (← Splice.Program.surroundings words) words)
