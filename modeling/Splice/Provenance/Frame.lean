import Splice.Text.Basic

namespace Splice

/-!
# Frames

A frame is a call under way: the code that runs and the instruction that it stands at.  Pieces
of code are compared by what was compiled, which leaves the file out: the same function, written
at the same line of two files, is the same code.  Columns are counted from one in a location,
although the positions of instructions count them from zero.
-/

/-- Compiled code by all that it is compared by. -/
structure Code where
  name : Text
  firstLine : Int
  /-- The instructions with their constants, names and positions. -/
  body : List Nat
  deriving DecidableEq

/-- Compiled code with the file that it was compiled from. -/
structure CodeObject where
  code : Code
  file : Text

/-- A call under way, with the position of its instruction. -/
structure Frame where
  running : CodeObject
  instruction : Int
  line : Int
  /-- Where the instruction begins on its line, counted from zero, if that was recorded. -/
  offset : Option Int

namespace Frame

/-- The column of the instruction, counted from one; the first one if none was recorded. -/
def column (frame : Frame) : Int :=
  match frame.offset with
  | none => 1
  | some offset => offset + 1

/-- A frame that is told from others by a name of its own. -/
def named (name file : Text) (line column : Int) : Frame where
  running := ⟨⟨name, 1, []⟩, file⟩
  instruction := 0
  line := line
  offset := some (column - 1)

end Frame

end Splice
