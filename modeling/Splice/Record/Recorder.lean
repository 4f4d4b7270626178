import Splice.Record.Line

namespace Splice

/-!
# Recorders

A recorder writes the records of the library, which come from sources under one
name, to the stream and in the form of the latest set-up, and only those that
are important enough.  Until it is set up, and for all other sources, warnings
and worse go to the standard error stream as bare messages.
-/

/-- A stream that lines are written to. -/
structure Stream where
  name : Text
  isTerminal : Bool
  deriving DecidableEq

/-- The stream for everything that is no result. -/
def Stream.standardError : Stream :=
  ⟨"stderr".toList, false⟩

/-- Where lines go and what they look like. -/
structure Outlet where
  stream : Stream
  layout : Layout

/-- The outlet and the least level of the records that are written. -/
structure Recorder where
  outlet : Option Outlet := none
  level : Level := 0

/-- The switches that a caller sets a recorder up by. -/
structure Verbosity where
  verbose : Bool := false
  quiet : Bool := false
  /-- Whether programs read the records. -/
  machine : Bool := false

namespace Recorder

/-- The name of the library's own sources. -/
def family : Text := "codeloom".toList

/-- Whether a source belongs to the library. -/
def isOwn (source : Text) : Bool :=
  source == family || Text.startsWith (family ++ ['.']) source

/-- Write from now on in a form, from a level on, to a stream. -/
def setUp (mode : LineMode) (level : Level) (stream : Stream) : Recorder :=
  ⟨some ⟨stream, ⟨mode, stream.isTerminal⟩⟩, level⟩

/-- Set up by switches: programs win over verbosity for the form, quiet wins for the level. -/
def configure (flags : Verbosity) : Recorder :=
  setUp
    (if flags.machine then .json else if flags.verbose then .verbose else .human)
    (if flags.quiet then Level.warning else if flags.verbose then Level.debug else Level.info)
    Stream.standardError

/-- The least level of the records that are written; zero leaves it at warnings. -/
def threshold (recorder : Recorder) (source : Text) : Level :=
  if isOwn source && recorder.level != 0 then recorder.level else Level.warning

/-- Whether a record of a level is written. -/
def isEnabled (recorder : Recorder) (source : Text) (level : Level) : Bool :=
  0 < level && recorder.threshold source ≤ level

/-- Where a record of a source goes, and in which form; nothing is a bare message. -/
def outletOf (recorder : Recorder) (source : Text) : Option Outlet :=
  if isOwn source then recorder.outlet else none

/-- What a record adds to a stream, if it is written. -/
def write (recorder : Recorder) (source : Text) (record : Record) : Option (Stream × Text) :=
  if recorder.isEnabled source record.level then
    match recorder.outletOf source with
    | some outlet =>
        match record.line outlet.layout with
        | .ok line => some (outlet.stream, line ++ ['\n'])
        | .error _ => none
    | none =>
        if Level.warning ≤ record.level then
          some (Stream.standardError, record.message ++ ['\n'])
        else none
  else none

end Recorder

end Splice
