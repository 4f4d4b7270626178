import Splice.Command.Words
import Splice.Text.Digit

namespace Splice.Command

/-!
# Requests

What a command line asks for.  General switches stand before the name of a
command, whose own switches and operand follow.  The words behind the name are
read only when the command is about to run.
-/

/-- Switches for every command. -/
inductive GeneralSwitch where
  | config
  | verbose
  | quiet
  | machine
  | version
  | help
  deriving DecidableEq

/-- The names of the general switches. -/
def generalSwitches : List (Switch GeneralSwitch) := [
  ⟨.config, some 'c', "config", true⟩,
  ⟨.verbose, some 'v', "verbose", false⟩,
  ⟨.quiet, some 'q', "quiet", false⟩,
  ⟨.machine, none, "ci", false⟩,
  ⟨.version, none, "version", false⟩,
  ⟨.help, none, "help", false⟩]

/-- The commands. -/
inductive Name where
  | render
  | check
  | palette
  deriving DecidableEq

/-- The command of a name. -/
def Name.ofText? (word : Text) : Option Name :=
  if word = "render".toList then some .render
  else if word = "check".toList then some .check
  else if word = "palette".toList then some .palette
  else none

/-- What the words before a command ask for. -/
inductive General where
  | usage
  | version
  | help
  /-- Run a command: the switches, the command, and the words behind its name. -/
  | run (given : Given GeneralSwitch) (name : Name) (words : List Text)

/-- Whether a switch asks for something that is told at once. -/
def GeneralSwitch.isInquiry (key : GeneralSwitch) : Bool :=
  key = .version ∨ key = .help

/-- The first inquiry among given switches. -/
def inquiry? (given : Given GeneralSwitch) : Option General :=
  (given.find? fun entry => entry.1.isInquiry).map fun entry =>
    if entry.1 = .version then .version else .help

/-- What switches without a command ask for. -/
def readInquiry (words : List Text) : General :=
  match readWords generalSwitches false words with
  | none => .usage
  | some reading => (inquiry? reading.given).getD .usage

/-- What a command line asks for; operands that are no command are read once more as switches. -/
def readGeneral (words : List Text) : General :=
  match readWords generalSwitches false words with
  | none => .usage
  | some reading =>
      match inquiry? reading.given, reading.operands with
      | some found, _ => found
      | none, [] => .usage
      | none, word :: rest =>
          match Name.ofText? word with
          | some name => .run reading.given name rest
          | none => readInquiry (word :: rest)

/-- Switches of the commands. -/
inductive OwnSwitch where
  | argument
  | debug
  | count
  | help
  deriving DecidableEq

/-- The names of the switches of a command. -/
def Name.switches : Name → List (Switch OwnSwitch)
  | .render => [
      ⟨.argument, some 'a', "arg", true⟩, ⟨.debug, none, "debug", false⟩,
      ⟨.help, none, "help", false⟩]
  | .check => [⟨.argument, some 'a', "arg", true⟩, ⟨.help, none, "help", false⟩]
  | .palette => [⟨.count, some 'n', "count", true⟩, ⟨.help, none, "help", false⟩]

/-- A command with what it works on. -/
inductive Own where
  | usage
  | help
  | render (source : Text) (assignments : List Text) (debug : Bool)
  /-- Without names nothing is compared. -/
  | check (source : Text) (names : Option (List Text))
  | palette (count : Option Nat)

/-- The number of colours to show: the last one given, which has to be at least one. -/
def readCount (values : List Text) : Own :=
  match values.getLast? with
  | none => .palette none
  | some value =>
      match Text.integer? value with
      | some n => if 1 ≤ n then .palette (some n.toNat) else .usage
      | none => .usage

/-- What the words behind the name of a command ask for. -/
def readOwn (name : Name) (words : List Text) : Own :=
  match readWords name.switches true words with
  | none => .usage
  | some ⟨given, operands⟩ =>
      if given.has .help then .help
      else
        match name, operands with
        | .render, [source] => .render source (given.values .argument) (given.has .debug)
        | .check, [source] =>
            .check source (if given.has .argument then some (given.values .argument) else none)
        | .palette, [] => readCount (given.values .count)
        | _, _ => .usage

end Splice.Command
