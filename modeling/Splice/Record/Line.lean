import Splice.Record.Clock
import Splice.Record.Level
import Splice.Style.Escape
import Splice.Value.Json
import Splice.Value.Percent

namespace Splice

/-!
# Lines of records

A record is written on one line: for people, with a tag for its level and
possibly the time of day, or for programs, as an object with the level, the time,
the message and whatever data the record bears.
-/

/-- The form of a line. -/
inductive LineMode where
  | human
  | verbose
  | json
  deriving DecidableEq

/-- The form of a line, and whether its tag is coloured. -/
structure Layout where
  mode : LineMode
  coloured : Bool

/-- What happened: a message with its arguments, and data. -/
structure Record where
  level : Level
  message : Text
  arguments : List Datum := []
  /-- The seconds since the start of 1970. -/
  created : Double
  data : Value.Entries Empty := []

/-- Why a record has no line. -/
inductive LineFault where
  | clock (fault : ClockFault)
  | arguments (fault : Value.PercentFault)
  | data (fault : Value.JsonFault)
  deriving DecidableEq

/-- What is said about a record that has no line. -/
def LineFault.message : LineFault → String
  | .clock fault => ClockFault.message fault
  | .arguments fault => Value.PercentFault.message fault
  | .data fault => Value.JsonFault.message fault

namespace Record

/-- The message with its arguments put in. -/
def text (record : Record) : Except LineFault Text :=
  (Value.percent record.message record.arguments).mapError .arguments

/-- The moment of a record, as a time of the place or of the world. -/
def moment (ofPlace : Bool) (record : Record) : Except LineFault Moment :=
  (Moment.ofTimestamp ofPlace record.created).mapError .clock

/-- The level between brackets. -/
def tag (coloured : Bool) (record : Record) : Text :=
  let plain := '[' :: record.level.name ++ [']']
  if coloured then record.level.style.render .trueColour plain else plain

/-- The object that a record is for programs: data of a known name takes the place of what stands there. -/
def object (record : Record) : Except LineFault (Value.Entries Empty) := do
  let moment ← record.moment false
  let text ← record.text
  let known : Value.Entries Empty := [
    (.text "level".toList, .text record.level.name),
    (.text "ts".toList, .text (moment.text 'T')),
    (.text "msg".toList, .text text)]
  return record.data.foldl (fun entries entry => Value.insert entry.1 entry.2 entries) known

/-- The line of a record. -/
def line (layout : Layout) (record : Record) : Except LineFault Text :=
  match layout.mode with
  | .human => do
      let text ← record.text
      return record.tag layout.coloured ++ ' ' :: text
  | .verbose => do
      let moment ← record.moment true
      let text ← record.text
      return record.tag layout.coloured ++ '[' :: moment.clockText ++ ']' :: ' ' :: text
  | .json => do
      let object ← record.object
      (Value.json (.dict object)).mapError .data

end Record

end Splice
