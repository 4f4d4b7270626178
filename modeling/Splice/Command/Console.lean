import Splice.Record.Note
import Splice.Record.Recorder
import Splice.Settings.Source
import Splice.Style.Escape

namespace Splice.Command

/-!
# The console of a command

What a command sees of the world around it, and what it has written.  Results go
to the output and records to the error stream.  Output that is not meant for a
terminal loses its escape sequences.
-/

/-- The world around a command. -/
structure Surroundings where
  workspace : Workspace
  environment : Environment
  /-- What the standard input holds. -/
  input : List UInt8
  /-- The seconds since the start of 1970. -/
  now : Double

/-- Why a command stops without a word. -/
inductive Crash where
  | encoding
  | source (fault : SourceFault)

/-- What a command has written so far. -/
structure Console where
  recorder : Recorder
  now : Double
  output : Text := []
  errors : Text := []

/-- What is left of a command. -/
inductive Outcome where
  /-- The command line asks for nothing that exists. -/
  | usage
  | help
  /-- The command has ended by itself. -/
  | ended (exit : Nat) (output errors : Text)
  | crashed (crash : Crash) (output errors : Text)

namespace Console

/-- Write a record of a source. -/
def record (source : String) (level : Level) (message : String) (data : Value.Entries Empty)
    (console : Console) : Console :=
  let record : Record := {
    level := level, message := message.toList, created := console.now, data := data }
  match console.recorder.write source.toList record with
  | some (_, line) => { console with errors := console.errors ++ line }
  | none => console

/-- Write a record of the commands. -/
def say (level : Level) (message : String) (console : Console) : Console :=
  console.record Channel.command.name level message []

/-- Write notes of the library. -/
def notes (found : List Note) (console : Console) : Console :=
  found.foldl (fun console note =>
    console.record note.channel.name Level.debug note.message []) console

/-- Write a text to the output as it is. -/
def put (text : Text) (console : Console) : Console :=
  { console with output := console.output ++ text }

/-- Write a line to the output, without escape sequences. -/
def line (text : Text) (console : Console) : Console :=
  console.put (Style.withoutEscapes (text ++ ['\n']))

/-- End a command. -/
def exit (code : Nat) (console : Console) : Outcome :=
  .ended code console.output console.errors

/-- Say what failed and end a command. -/
def fail (message : String) (console : Console) : Outcome :=
  (console.say Level.error message).exit 1

/-- Stop a command without a word. -/
def crash (why : Crash) (console : Console) : Outcome :=
  .crashed why console.output console.errors

end Console

end Splice.Command
